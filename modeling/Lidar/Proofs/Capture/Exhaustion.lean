import Lidar.Proofs.Capture.Calls
import Lidar.Proofs.Capture.Opening
import Mathlib.Logic.Function.Iterate

namespace Lidar.Capture

/-- Nothing turns up behind the records, however often reading is taken up again. -/
def Silent (b : Bytes) : Prop := ∀ n, deliveries b ((resumption b)^[n + 1] headerSize) = []

/-- The positions a capture can come to: behind the same records as the header, or as a place
where reading rested before. -/
structure OnChain (b : Bytes) (c : Capture) : Prop where
  file : c.bytes = b
  rests : ∃ n, resumption b c.position = (resumption b)^[n + 1] headerSize

theorem onChain_opened (b : Bytes) (nanoseconds looped : Bool) :
    OnChain b (opened b nanoseconds looped) := ⟨rfl, 0, rfl⟩

theorem OnChain.reset {b : Bytes} {c : Capture} (h : OnChain b c) : OnChain b c.reset :=
  ⟨h.file, 0, rfl⟩

theorem OnChain.next {b : Bytes} {c : Capture} (h : OnChain b c) : OnChain b c.next.2 := by
  obtain ⟨rfl, n, rests⟩ := h
  cases ahead : deliveries c.bytes c.position with
  | cons d ds =>
    obtain ⟨stop, range, found, -, -, same⟩ := next_finds ahead
    rw [found]
    exact ⟨rfl, n, same.trans rests⟩
  | nil =>
    by_cases again : c.looped ∧ c.payload.1 ≠ 0
    · cases first : deliveries c.bytes headerSize with
      | cons d ds =>
        obtain ⟨stop, range, found, -, -, same⟩ := next_restarts ahead again first
        rw [found]
        exact ⟨rfl, 0, same⟩
      | nil =>
        rw [next_trapped ahead again first]
        exact ⟨rfl, 1, rfl⟩
    · rw [next_rests ahead again]
      refine ⟨rfl, n + 1, ?_⟩
      show resumption c.bytes (resumption c.bytes c.position) = _
      exact (congrArg _ rests).trans (Function.iterate_succ_apply' _ _ _).symm

theorem OnChain.after {b : Bytes} {c : Capture} (h : OnChain b c) (calls : List Call) :
    OnChain b (c.after calls) :=
  after_induction (P := OnChain b) (fun _ => .next) (fun _ => .reset) h calls

section Rest

variable {b : Bytes} {c : Capture}

/-- An exhausted answer means that no datagram is ahead. -/
theorem deliveries_of_exhausted (h : c.next.1 = .exhausted) :
    deliveries c.bytes c.position = [] := by
  cases ahead : deliveries c.bytes c.position with
  | nil => rfl
  | cons d ds =>
    obtain ⟨stop, range, found, -⟩ := next_finds ahead
    rw [found] at h
    exact absurd h (answerOf_ne_exhausted d)

theorem after_rests (hr : ¬(c.looped ∧ c.payload.1 ≠ 0)) (n : Nat)
    (h : ∀ k < n, deliveries c.bytes ((resumption c.bytes)^[k] c.position) = []) :
    c.after (List.replicate n .next) =
      { c with position := (resumption c.bytes)^[n] c.position } := by
  induction n generalizing c with
  | zero => rfl
  | succ n ih =>
    have none : deliveries c.bytes c.position = [] := h 0 (Nat.succ_pos n)
    rw [after_next_succ, next_rests none hr]
    exact ih (c := { c with position := resumption c.bytes c.position }) hr
      fun k hk => h (k + 1) (Nat.succ_lt_succ hk)

/-- At rest a capture stays exhausted if no later place of rest has a datagram behind it. -/
theorem stays_exhausted_iff (hr : ¬(c.looped ∧ c.payload.1 ≠ 0))
    (h : deliveries c.bytes c.position = []) :
    (∀ n, (c.after (List.replicate (n + 1) .next)).next.1 = .exhausted) ↔
      ∀ n, deliveries c.bytes ((resumption c.bytes)^[n + 1] c.position) = [] := by
  constructor
  · intro stays
    have upTo : ∀ n, deliveries c.bytes ((resumption c.bytes)^[n] c.position) = [] := by
      intro n
      induction n using Nat.strongRecOn with
      | ind n ih =>
        cases n with
        | zero => exact h
        | succ n =>
          have exhausted := stays n
          rw [after_rests hr (n + 1) ih] at exhausted
          exact deliveries_of_exhausted exhausted
    exact fun n => upTo (n + 1)
  · intro silent n
    have upTo : ∀ k, deliveries c.bytes ((resumption c.bytes)^[k] c.position) = []
      | 0 => h
      | k + 1 => silent k
    rw [after_rests hr (n + 1) fun k _ => upTo k,
      next_rests (c := { c with position := (resumption c.bytes)^[n + 1] c.position })
        (silent n) hr]

end Rest

/-- Once exhausted, a capture that is not looped stays so until a reset, after whatever calls,
exactly if the file is silent behind its records. -/
theorem exhaustion_lasts_iff {b : Bytes} {c : Capture} (h : ofFile b false = .ok c) :
    (∀ calls, (c.after calls).next.1 = .exhausted →
        ∀ n, ((c.after calls).after (List.replicate (n + 1) .next)).next.1 = .exhausted) ↔
      Silent b := by
  obtain ⟨nanoseconds, -, rfl⟩ := ofFile_eq_ok_iff.1 h
  constructor
  · intro lasts
    have all : deliveries (opened b nanoseconds false).bytes
        (opened b nanoseconds false).position = deliveries b headerSize := rfl
    obtain ⟨stop, range, there, none, same, -⟩ := after_deliveries all
    have hr : ¬((false : Bool) = true ∧ range.1 ≠ 0) := fun again => Bool.noConfusion again.1
    have first := lasts (List.replicate (deliveries b headerSize).length .next)
    rw [there, next_rests none hr] at first
    have silent := (stays_exhausted_iff hr none).1 (first rfl)
    intro n
    have chain := silent n
    rw [Function.iterate_succ_apply, same] at chain
    rwa [Function.iterate_succ_apply]
  · intro silent calls exhausted
    obtain ⟨file, n₀, rests⟩ := (onChain_opened b nanoseconds false).after calls
    have hr : ¬(((opened b nanoseconds false).after calls).looped ∧
        ((opened b nanoseconds false).after calls).payload.1 ≠ 0) := by
      rw [after_looped]
      exact fun again => Bool.noConfusion again.1
    rw [stays_exhausted_iff hr (deliveries_of_exhausted exhausted), file]
    intro n
    rw [Function.iterate_succ_apply, rests, ← Function.iterate_add_apply]
    exact silent (n + n₀)

def plainHeader : Bytes :=
  #[0xd4, 0xc3, 0xb2, 0xa1, 2, 0, 4, 0, 0, 0, 0, 0, 0, 0, 0, 0, 0, 0, 0, 0, 1, 0, 0, 0]

/-- A record with a datagram of one byte. -/
def byteRecord (payload : UInt8) : Bytes :=
  #[0, 0, 0, 0, 0, 0, 0, 0, 0x2b, 0, 0, 0, 0x2b, 0, 0, 0,
    0, 0, 0, 0, 0, 0, 0, 0, 0, 0, 0, 0, 8, 0,
    0x45, 0, 0, 0, 0, 0, 0, 0, 0x40, 0x11, 0, 0, 0x0a, 0, 0, 1, 0, 0, 0, 0,
    0, 1, 0, 0, 0, 9, 0, 0, payload]

/-- The header of a record with a frame of 1000 bytes. -/
def longRecordHeader : Bytes := #[0, 0, 0, 0, 0, 0, 0, 0, 0xe8, 3, 0, 0, 0xe8, 3, 0, 0]

/-- Two datagrams, and a record that the file cuts short. What stands in its frame looks like the
header of a record that is cut short too. -/
def tornFile : Bytes :=
  plainHeader ++ byteRecord 0xaa ++ byteRecord 0xbb ++ longRecordHeader ++ Array.replicate 18 0xff

theorem headed_tornFile : Headed tornFile false := by
  constructor <;> decide +kernel

theorem silent_tornFile : Silent tornFile := by
  have first : resumption tornFile headerSize = 158 := by decide +kernel
  have second : resumption tornFile 158 = 174 := by decide +kernel
  have fixed : resumption tornFile 174 = 174 := by decide +kernel
  have none : record? tornFile 158 = none ∧ record? tornFile 174 = none := by decide +kernel
  intro n
  rw [Function.iterate_succ_apply, first]
  cases n with
  | zero => exact deliveries_none none.1
  | succ n =>
    rw [Function.iterate_succ_apply, second, Function.iterate_fixed fixed, deliveries_none none.2]

/-- Both datagrams are handed out, and then no call gets anything until a reset. -/
theorem exhaustion_lasts_in_tornFile :
    ∃ c, ofFile tornFile false = .ok c ∧ c.next.1 = .packet (.v4 ⟨10, 0, 0, 1⟩ 1) #[0xaa] ∧
      (c.after [.next]).next.1 = .packet (.v4 ⟨10, 0, 0, 1⟩ 1) #[0xbb] ∧
      (c.after [.next, .next]).next.1 = .exhausted ∧
      (∀ n, ((c.after [.next, .next]).after (List.replicate (n + 1) .next)).next.1 = .exhausted) ∧
      (c.after [.next, .next, .next, .reset]).next.1 = .packet (.v4 ⟨10, 0, 0, 1⟩ 1) #[0xaa] := by
  have accepted : ofFile tornFile false = .ok (opened tornFile false false) :=
    ofFile_eq_ok_iff.2 ⟨false, headed_tornFile, rfl⟩
  have exhausted : ((opened tornFile false false).after [.next, .next]).next.1 = .exhausted := by
    decide +kernel
  have lasts := (exhaustion_lasts_iff accepted).2 silent_tornFile
  exact ⟨_, accepted, by decide +kernel, by decide +kernel, exhausted, lasts _ exhausted,
    by decide +kernel⟩

/-- A record that the file cuts short, with a complete record of a datagram in its frame. -/
def cutFile : Bytes := plainHeader ++ longRecordHeader ++ byteRecord 0xaa

theorem exhaustion_ends_in_cutFile :
    ∃ c, ofFile cutFile false = .ok c ∧ c.next.1 = .exhausted ∧
      c.next.2.next.1 = .packet (.v4 ⟨10, 0, 0, 1⟩ 1) #[0xaa] :=
  ⟨opened cutFile false false, rfl, by decide +kernel, by decide +kernel⟩

end Lidar.Capture
