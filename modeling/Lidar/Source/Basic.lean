import Lidar.Bytes
import Lidar.Fault
import Lidar.Net.Address
import Lidar.Transport

namespace Lidar

inductive Pull where
  | packet (sender : Address) (payload : Bytes)
  /-- There is no packet, now or any more. -/
  | exhausted
  | failed (e : TransportError)
  | aborted (f : Fault)
deriving DecidableEq

class PacketSource (σ : Type) where
  next : σ → Pull × σ

/-- The answers of a finite list in turn, and exhaustion after them. -/
structure Script where
  answers : List Pull
deriving DecidableEq

def Script.next (s : Script) : Pull × Script :=
  match s.answers with
  | [] => (.exhausted, s)
  | a :: rest => (a, ⟨rest⟩)

instance : PacketSource Script := ⟨Script.next⟩

end Lidar
