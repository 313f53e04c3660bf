import Lidar.Source.Basic

namespace Lidar

/-- The address that replayed packets seem to come from. -/
def defaultSender : Address := .v4 ⟨192, 168, 1, 201⟩ 2368

structure MemorySource where
  packets : Array Bytes
  position : Nat := 0
  looped : Bool := false
  sender : Address := defaultSender
deriving DecidableEq

namespace MemorySource

/-- The packet at the position. A looped source starts again after its last packet. -/
def next (s : MemorySource) : Pull × MemorySource :=
  let position := if s.looped ∧ s.packets.size ≤ s.position then 0 else s.position
  match s.packets[position]? with
  | some p => (.packet s.sender p, { s with position := position + 1 })
  | none => (.exhausted, s)

def reset (s : MemorySource) : MemorySource := { s with position := 0 }

instance : PacketSource MemorySource := ⟨next⟩

end MemorySource

end Lidar
