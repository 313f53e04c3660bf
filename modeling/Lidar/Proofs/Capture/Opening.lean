import Lidar.Capture.Basic
import Lidar.Proofs.Except

namespace Lidar.Capture

def magicOf (nanoseconds : Bool) : UInt32 := if nanoseconds then 0xA1B23C4D else 0xA1B2C3D4

structure Headed (b : Bytes) (nanoseconds : Bool) : Prop where
  magic : b.word32? 0 = some (magicOf nanoseconds)
  major : b.word16? 4 = some 2
  minor : b.word16? 6 = some 4
  network : b.word32? 20 = some 1

/-- A capture before its first record, nothing given yet. -/
def opened (b : Bytes) (nanoseconds looped : Bool) : Capture :=
  { bytes := b, nanoseconds, looped, position := headerSize, payload := (0, 0) }

theorem nanosecondsOf_eq_ok_iff {magic : UInt32} {nanoseconds : Bool} :
    nanosecondsOf magic = .ok nanoseconds ↔ magic = magicOf nanoseconds := by
  rw [nanosecondsOf]
  split_ifs with micro nano other
  · subst micro
    cases nanoseconds <;> simp [magicOf]
  · subst nano
    cases nanoseconds <;> simp [magicOf]
  all_goals cases nanoseconds <;> simp [magicOf, micro, nano]

theorem need_eq_ok_iff {α : Type} {x : Option α} {a : α} : need x = .ok a ↔ x = some a := by
  cases x <;> simp [need]

theorem ofFile_eq_ok_iff {b : Bytes} {looped : Bool} {c : Capture} :
    ofFile b looped = .ok c ↔
      ∃ nanoseconds, Headed b nanoseconds ∧ c = opened b nanoseconds looped := by
  simp only [ofFile, guard_eq_ok_iff, bind_eq_ok_iff, need_eq_ok_iff, nanosecondsOf_eq_ok_iff]
  constructor
  · intro found
    obtain ⟨-, magic, h0, n, rfl, major, h4, minor, h6, network, h20, version, link, ok⟩ := found
    simp only [not_or, ne_eq, Decidable.not_not] at version link
    obtain ⟨rfl, rfl⟩ := version
    subst link
    exact ⟨n, ⟨h0, h4, h6, h20⟩, (Except.ok.inj ok).symm⟩
  · intro found
    obtain ⟨n, headed, rfl⟩ := found
    have inside := Bytes.word32?_isSome.1 (Option.isSome_of_eq_some headed.magic)
    refine ⟨by omega, _, headed.magic, n, rfl, _, headed.major, _, headed.minor, _,
      headed.network, by simp, by simp, rfl⟩

end Lidar.Capture
