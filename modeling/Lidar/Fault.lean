namespace Lidar

/-- What stops a computation for good, other than refused input: an index or a word that left its
range. -/
inductive Fault where
  /-- A section of a checked packet lies outside its bytes. -/
  | outsidePacket
  /-- A table has no entry at an index. -/
  | outsideTable
  /-- An azimuth on the way to a corrected one does not fit 64 bits. -/
  | azimuthOverflow (azimuth : Int)
  /-- A time stamp in nanoseconds does not fit 32 bits. -/
  | fractionOverflow (fraction : UInt32)
  /-- A looped capture has no packet left to start again from. -/
  | endlessRestart
deriving DecidableEq

/-- The entry of a table, or the fault that there is none. -/
def Fault.unless {α : Type} (f : Fault) (x : Option α) : Except Fault α :=
  x.elim (.error f) .ok

theorem Fault.unless_eq_ok_iff {α : Type} {f : Fault} {x : Option α} {a : α} :
    f.unless x = .ok a ↔ x = some a := by
  cases x <;> simp [Fault.unless]

end Lidar
