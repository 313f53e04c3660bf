import Lidar.Proofs.Capture.Exhaustion
import Mathlib.Data.Nat.Find

namespace Lidar.Capture

/-- The call itself, with a bound on how often it may start over. -/
def nextWithin (c : Capture) (restarts : Nat) : Option (Pull × Capture) :=
  match c.step with
  | (some answer, c) => some (answer, c)
  | (none, c) =>
    if c.looped ∧ c.payload.1 ≠ 0 then
      match restarts with
      | 0 => none
      | restarts + 1 => c.reset.nextWithin restarts
    else some (.exhausted, c)

/-- Nothing is ahead, nothing is behind the header, and the capture starts over nevertheless. -/
structure Trapped (c : Capture) : Prop where
  ahead : deliveries c.bytes c.position = []
  again : c.looped ∧ c.payload.1 ≠ 0
  first : deliveries c.bytes headerSize = []

section Call

variable {c : Capture}

theorem nextWithin_finds {d : Delivery} {ds : List Delivery}
    (h : deliveries c.bytes c.position = d :: ds) (restarts : Nat) :
    c.nextWithin restarts = some c.next := by
  obtain ⟨stop, range, found, -⟩ := step_finds h
  have answer : c.next = (c.answerOf d, { c with position := stop, payload := range }) := by
    rw [next, found]
  rw [nextWithin, found, answer]

theorem nextWithin_rests (h : deliveries c.bytes c.position = [])
    (hr : ¬(c.looped ∧ c.payload.1 ≠ 0)) (restarts : Nat) :
    c.nextWithin restarts = some c.next := by
  rw [nextWithin, step_stops h, next_rests h hr]
  exact if_neg hr

theorem nextWithin_restarts (h : deliveries c.bytes c.position = [])
    (hr : c.looped ∧ c.payload.1 ≠ 0) (restarts : Nat) :
    c.nextWithin (restarts + 1) = c.reset.nextWithin restarts := by
  rw [nextWithin, step_stops h]
  exact if_pos hr

/-- A trapped call does not return, however often it starts over. -/
theorem Trapped.endless (h : c.Trapped) (restarts : Nat) : c.nextWithin restarts = none := by
  induction restarts generalizing c with
  | zero =>
    rw [nextWithin, step_stops h.ahead]
    exact if_pos h.again
  | succ restarts ih =>
    rw [nextWithin_restarts h.ahead h.again]
    exact ih ⟨h.first, h.again, h.first⟩

/-- Any other call returns after one restart at most. -/
theorem nextWithin_one (h : ¬c.Trapped) : c.nextWithin 1 = some c.next := by
  cases ahead : deliveries c.bytes c.position with
  | cons d ds => exact nextWithin_finds ahead 1
  | nil =>
    by_cases again : c.looped ∧ c.payload.1 ≠ 0
    · cases first : deliveries c.bytes headerSize with
      | nil => exact absurd ⟨ahead, again, first⟩ h
      | cons d ds =>
        have some : deliveries c.bytes headerSize ≠ [] := by simp [first]
        rw [nextWithin_restarts ahead again, nextWithin_finds (c := c.reset) first,
          next_eq_next_reset ahead again some]
    · exact nextWithin_rests ahead again 1

theorem nextWithin_one_iff : c.nextWithin 1 = some c.next ↔ ¬c.Trapped := by
  constructor
  · intro returned trapped
    rw [trapped.endless] at returned
    cases returned
  · exact nextWithin_one

end Call

/-- A file that may be looped: its records hold a datagram, or nothing looks like one even where
reading is taken up behind them. -/
def Loopable (b : Bytes) : Prop := deliveries b headerSize ≠ [] ∨ Silent b

section File

variable {b : Bytes} {c : Capture}

/-- In a silent file without datagrams nothing is ever given. -/
structure Untouched (b : Bytes) (c : Capture) : Prop where
  file : c.bytes = b
  unpaid : c.payload.1 = 0
  rests : ∃ n, c.position = (resumption b)^[n] headerSize

theorem Untouched.next (none : ∀ n, deliveries b ((resumption b)^[n] headerSize) = [])
    (h : Untouched b c) : Untouched b c.next.2 := by
  obtain ⟨rfl, unpaid, n, rests⟩ := h
  have ahead : deliveries c.bytes c.position = [] := by
    rw [rests]
    exact none n
  rw [next_rests ahead fun again => again.2 unpaid]
  refine ⟨rfl, unpaid, n + 1, ?_⟩
  show resumption c.bytes c.position = _
  rw [rests, Function.iterate_succ_apply']

theorem Untouched.after (none : ∀ n, deliveries b ((resumption b)^[n] headerSize) = [])
    (h : Untouched b c) (calls : List Call) : Untouched b (c.after calls) :=
  after_induction (P := Untouched b) (fun _ => .next none)
    (fun _ h => ⟨h.file, h.unpaid, 0, rfl⟩) h calls

/-- In a loopable file a payload was only given if the records hold a datagram. -/
theorem Loopable.first (h : Loopable b) (nanoseconds : Bool) (calls : List Call)
    (given : ((opened b nanoseconds true).after calls).payload.1 ≠ 0) :
    deliveries b headerSize ≠ [] := by
  rcases h with first | silent
  · exact first
  · intro first
    have none : ∀ n, deliveries b ((resumption b)^[n] headerSize) = []
      | 0 => first
      | n + 1 => silent n
    have start : Untouched b (opened b nanoseconds true) := ⟨rfl, rfl, 0, rfl⟩
    exact given (start.after none calls).unpaid

/-- In any other file some calls lead into the trap: reading until a datagram turns up behind the
records, and a reset. -/
theorem exists_trapped (h : ¬Loopable b) (nanoseconds : Bool) :
    ∃ calls, ((opened b nanoseconds true).after calls).Trapped := by
  classical
  obtain ⟨first, loud⟩ := not_or.1 h
  rw [ne_eq, Decidable.not_not] at first
  have turnsUp : ∃ n, deliveries b ((resumption b)^[n + 1] headerSize) ≠ [] := not_forall.1 loud
  have before : ∀ k < Nat.find turnsUp + 1,
      deliveries b ((resumption b)^[k] headerSize) = [] := by
    intro k hk
    cases k with
    | zero => exact first
    | succ k =>
      have quiet := Nat.find_min turnsUp (Nat.lt_of_succ_lt_succ hk)
      rwa [ne_eq, Decidable.not_not] at quiet
  have there := after_rests (c := opened b nanoseconds true) (fun again => again.2 rfl) _ before
  obtain ⟨d, ds, found⟩ := List.exists_cons_of_ne_nil (Nat.find_spec turnsUp)
  obtain ⟨stop, range, answer, given, -⟩ := next_finds (c := { opened b nanoseconds true with
    position := (resumption b)^[Nat.find turnsUp + 1] headerSize }) found
  refine ⟨List.replicate (Nat.find turnsUp + 1) .next ++ [.next, .reset], ?_⟩
  have trap : (opened b nanoseconds true).after
      (List.replicate (Nat.find turnsUp + 1) .next ++ [.next, .reset]) =
      { opened b nanoseconds true with position := headerSize, payload := range } := by
    rw [after_append, there]
    show (Capture.next { opened b nanoseconds true with
      position := (resumption b)^[Nat.find turnsUp + 1] headerSize }).2.reset = _
    rw [answer]
    rfl
  rw [trap]
  exact ⟨first, ⟨rfl, given⟩, first⟩

theorem Trapped.none_behind_header {nanoseconds : Bool} {calls : List Call}
    (h : ((opened b nanoseconds true).after calls).Trapped) : deliveries b headerSize = [] := by
  have first := h.first
  rwa [after_bytes] at first

theorem never_trapped_iff (nanoseconds : Bool) :
    (∀ calls, ¬((opened b nanoseconds true).after calls).Trapped) ↔ Loopable b := by
  constructor
  · intro never
    by_contra unfit
    obtain ⟨calls, trapped⟩ := exists_trapped unfit nanoseconds
    exact never calls trapped
  · intro loopable calls trapped
    exact loopable.first nanoseconds calls trapped.again.2 trapped.none_behind_header

/-- A looped capture starts over at most once in every call after any others, and a payload is
only ever given if the records hold a datagram, exactly if the file is loopable. With any other
file some calls lead to one that never returns. -/
theorem restarts_once_iff (h : ofFile b true = .ok c) :
    ((∀ calls, (c.after calls).nextWithin 1 = some (c.after calls).next) ↔ Loopable b) ∧
      ((∀ calls, (c.after calls).payload.1 ≠ 0 → deliveries b headerSize ≠ []) ↔ Loopable b) ∧
      (¬Loopable b → ∃ calls, ∀ restarts, (c.after calls).nextWithin restarts = none) := by
  obtain ⟨nanoseconds, -, rfl⟩ := ofFile_eq_ok_iff.1 h
  refine ⟨?_, ?_, ?_⟩
  · rw [← never_trapped_iff nanoseconds]
    apply forall_congr'
    intro calls
    exact nextWithin_one_iff
  · constructor
    · intro given
      rw [← never_trapped_iff nanoseconds]
      intro calls trapped
      exact given calls trapped.again.2 trapped.none_behind_header
    · intro loopable
      exact loopable.first nanoseconds
  · intro unfit
    obtain ⟨calls, trapped⟩ := exists_trapped unfit nanoseconds
    exact ⟨calls, trapped.endless⟩

/-- The third call starts over, once and no more. -/
theorem restarts_once_in_tornFile :
    ∃ c, ofFile tornFile true = .ok c ∧ (c.after [.next, .next]).nextWithin 0 = none ∧
      (c.after [.next, .next]).next.1 = .packet (.v4 ⟨10, 0, 0, 1⟩ 1) #[0xaa] ∧
      ∀ calls, (c.after calls).nextWithin 1 = some (c.after calls).next := by
  have accepted : ofFile tornFile true = .ok (opened tornFile false true) :=
    ofFile_eq_ok_iff.2 ⟨false, headed_tornFile, rfl⟩
  have once := (restarts_once_iff accepted).1.2 (.inr silent_tornFile)
  exact ⟨_, accepted, by decide +kernel, by decide +kernel, once⟩

/-- In a looped capture the datagram in the cut frame counts as given; the third call is lost. -/
theorem restarts_forever_in_cutFile :
    ∃ c, ofFile cutFile true = .ok c ∧ (c.after [.next, .next]).payload.1 ≠ 0 ∧
      deliveries cutFile headerSize = [] ∧
      ∀ restarts, (c.after [.next, .next]).nextWithin restarts = none := by
  have first : deliveries cutFile headerSize = [] := by
    apply deliveries_none
    decide +kernel
  have ahead : ((opened cutFile false true).after [.next, .next]).position = 99 := by
    decide +kernel
  have given : ((opened cutFile false true).after [.next, .next]).payload = (98, 1) := by
    decide +kernel
  refine ⟨opened cutFile false true, rfl, by rw [given]; decide, first, ?_⟩
  obtain ⟨i, p, same⟩ := after_keeps (opened cutFile false true) [.next, .next]
  rw [same] at ahead given ⊢
  subst ahead given
  apply Trapped.endless
  refine ⟨?_, ⟨rfl, by decide⟩, first⟩
  apply deliveries_none
  decide +kernel

end File

end Lidar.Capture
