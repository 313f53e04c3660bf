import Lidar.Bytes
import Mathlib.Tactic.SplitIfs

namespace Lidar

/-- What a check finds: a number that no word of its size holds, or bytes that are not there. -/
inductive Excess where
  | word (value size : Nat)
  | range (start stop size : Nat)
deriving DecidableEq

/-- A number in a word that takes `size` values. -/
def fit (size value : Nat) : Except Excess Nat :=
  if value < size then .ok value else .error (.word value size)

/-- A place or a length in bytes. -/
def fitAddress (value : Nat) : Except Excess Nat := fit UInt64.size value

theorem fit_of_lt {size value : Nat} (h : value < size) : fit size value = .ok value := if_pos h

theorem fit_eq_ok_iff {size value word : Nat} :
    fit size value = .ok word ↔ value < size ∧ value = word := by
  rw [fit]
  split_ifs with h <;> simp [h]

theorem fitAddress_of_lt {value : Nat} (h : value < UInt64.size) : fitAddress value = .ok value :=
  fit_of_lt h

namespace Bytes

/-- The bytes from `start` up to `stop`. -/
def slice (b : Bytes) (start stop : Nat) : Except Excess Bytes :=
  if start ≤ stop ∧ stop ≤ b.size then .ok (b.extract start stop)
  else .error (.range start stop b.size)

def byteAt (b : Bytes) (i : Nat) : Except Excess UInt8 :=
  (b.byte? i).elim (.error (.range i (i + 1) b.size)) .ok

/-- The big-endian word in the two bytes from `i` on. -/
def bigEndian16At (b : Bytes) (i : Nat) : Except Excess UInt16 :=
  (b.bigEndian16? i).elim (.error (.range i (i + 2) b.size)) .ok

/-- A byte string in memory is shorter than half of what 64 bits address. -/
def InMemory (b : Bytes) : Prop := 2 * b.size < UInt64.size

variable {b : Bytes}

theorem slice_of_le {start stop : Nat} (ordered : start ≤ stop) (inside : stop ≤ b.size) :
    b.slice start stop = .ok (b.extract start stop) := if_pos ⟨ordered, inside⟩

theorem slice_eq_ok_iff {s : Bytes} {start stop : Nat} :
    b.slice start stop = .ok s ↔ (start ≤ stop ∧ stop ≤ b.size) ∧ b.extract start stop = s := by
  rw [slice]
  split_ifs with h <;> simp [h]

theorem byteAt_of_some {i : Nat} {x : UInt8} (h : b[i]? = some x) : b.byteAt i = .ok x := by
  rw [byteAt, byte?, h]
  rfl

theorem bigEndian16At_of_some {i : Nat} {w : UInt16} (h : b.bigEndian16? i = some w) :
    b.bigEndian16At i = .ok w := by
  rw [bigEndian16At, h]
  rfl

/-- A byte behind the front of a string is one of the string. -/
theorem getElem?_behind (b : Bytes) (start i : Nat) :
    (b.extract start b.size)[i]? = b[start + i]? := by
  rw [Array.getElem?_extract]
  split
  · rfl
  · exact (Array.getElem?_eq_none (by omega)).symm

end Bytes

end Lidar
