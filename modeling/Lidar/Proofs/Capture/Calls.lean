import Lidar.Proofs.Capture.Walk

namespace Lidar.Capture

inductive Call where
  | next
  | reset

def Call.apply (c : Capture) : Call → Capture
  | next => c.next.2
  | reset => c.reset

/-- The capture after some calls. -/
def after (c : Capture) (calls : List Call) : Capture := calls.foldl Call.apply c

/-- The answers to the next `n` requests for a packet. -/
def answers (c : Capture) : Nat → List Pull
  | 0 => []
  | n + 1 => c.next.1 :: c.next.2.answers n

variable {c : Capture}

theorem after_append (calls more : List Call) :
    c.after (calls ++ more) = (c.after calls).after more := List.foldl_append

theorem after_next_succ (n : Nat) :
    c.after (List.replicate (n + 1) .next) = c.next.2.after (List.replicate n .next) := rfl

theorem answerOf_ne_exhausted (d : Delivery) : c.answerOf d ≠ .exhausted := by
  rw [answerOf]
  split_ifs <;> simp

theorem next_finds {d : Delivery} {ds : List Delivery}
    (h : deliveries c.bytes c.position = d :: ds) :
    ∃ stop range, c.next = (c.answerOf d, { c with position := stop, payload := range }) ∧
      range.1 ≠ 0 ∧ deliveries c.bytes stop = ds ∧
      resumption c.bytes stop = resumption c.bytes c.position := by
  obtain ⟨stop, range, found, rest⟩ := step_finds h
  exact ⟨stop, range, by rw [next, found], rest⟩

/-- Without a datagram ahead and without a restart the capture comes to rest. -/
theorem next_rests (h : deliveries c.bytes c.position = []) (hr : ¬(c.looped ∧ c.payload.1 ≠ 0)) :
    c.next = (.exhausted, { c with position := resumption c.bytes c.position }) := by
  rw [next, step_stops h]
  exact if_neg hr

/-- With a restart the call goes on as after a reset. -/
theorem next_of_restart (h : deliveries c.bytes c.position = [])
    (hr : c.looped ∧ c.payload.1 ≠ 0) :
    c.next =
      match c.reset.step with
      | (some answer, c) => (answer, c)
      | (none, c) => (.aborted .endlessRestart, c) := by
  rw [next, step_stops h]
  exact if_pos hr

theorem next_restarts {d : Delivery} {ds : List Delivery}
    (h : deliveries c.bytes c.position = []) (hr : c.looped ∧ c.payload.1 ≠ 0)
    (first : deliveries c.bytes headerSize = d :: ds) :
    ∃ stop range, c.next = (c.answerOf d, { c with position := stop, payload := range }) ∧
      range.1 ≠ 0 ∧ deliveries c.bytes stop = ds ∧
      resumption c.bytes stop = resumption c.bytes headerSize := by
  obtain ⟨stop, range, found, rest⟩ := step_finds (c := c.reset) first
  exact ⟨stop, range, by rw [next_of_restart h hr, found]; rfl, rest⟩

/-- Starting over is answering as after a reset. -/
theorem next_eq_next_reset (h : deliveries c.bytes c.position = [])
    (hr : c.looped ∧ c.payload.1 ≠ 0) (some : deliveries c.bytes headerSize ≠ []) :
    c.next = c.reset.next := by
  obtain ⟨d, ds, first⟩ := List.exists_cons_of_ne_nil some
  obtain ⟨stop, range, found, -⟩ := step_finds (c := c.reset) first
  rw [next_of_restart h hr, next, found]

theorem next_trapped (h : deliveries c.bytes c.position = []) (hr : c.looped ∧ c.payload.1 ≠ 0)
    (first : deliveries c.bytes headerSize = []) :
    c.next = (.aborted .endlessRestart, { c with position := resumption c.bytes headerSize }) := by
  rw [next_of_restart h hr, step_stops (c := c.reset) first]
  rfl

/-- What requests and resets keep is kept by all calls. -/
theorem after_induction {P : Capture → Prop} (next : ∀ c, P c → P c.next.2)
    (reset : ∀ c, P c → P c.reset) (start : P c) (calls : List Call) : P (c.after calls) := by
  induction calls generalizing c with
  | nil => exact start
  | cons call calls ih =>
    cases call with
    | next => exact ih (next c start)
    | reset => exact ih (reset c start)

/-- No call touches the file or the way it is read. -/
theorem next_keeps (c : Capture) :
    ∃ position payload, c.next.2 = { c with position, payload } := by
  cases ahead : deliveries c.bytes c.position with
  | cons d ds =>
    obtain ⟨stop, range, answer, -⟩ := next_finds ahead
    exact ⟨stop, range, by rw [answer]⟩
  | nil =>
    by_cases hr : c.looped ∧ c.payload.1 ≠ 0
    · cases first : deliveries c.bytes headerSize with
      | cons d ds =>
        obtain ⟨stop, range, answer, -⟩ := next_restarts ahead hr first
        exact ⟨stop, range, by rw [answer]⟩
      | nil => exact ⟨_, c.payload, by rw [next_trapped ahead hr first]⟩
    · exact ⟨_, c.payload, by rw [next_rests ahead hr]⟩

theorem after_keeps (c : Capture) (calls : List Call) :
    ∃ position payload, c.after calls = { c with position, payload } := by
  refine after_induction (P := fun e => ∃ position payload, e = { c with position, payload })
    ?_ ?_ ⟨c.position, c.payload, rfl⟩ calls
  · rintro _ ⟨position, payload, rfl⟩
    exact next_keeps _
  · rintro _ ⟨position, payload, rfl⟩
    exact ⟨headerSize, payload, rfl⟩

theorem after_bytes (c : Capture) (calls : List Call) : (c.after calls).bytes = c.bytes := by
  obtain ⟨position, payload, same⟩ := after_keeps c calls
  rw [same]

theorem after_looped (c : Capture) (calls : List Call) : (c.after calls).looped = c.looped := by
  obtain ⟨position, payload, same⟩ := after_keeps c calls
  rw [same]

/-- As many requests as there are datagrams ahead hand out just these. -/
theorem after_deliveries {ds : List Delivery} (h : deliveries c.bytes c.position = ds) :
    ∃ stop range, c.after (List.replicate ds.length .next) =
        { c with position := stop, payload := range } ∧
      deliveries c.bytes stop = [] ∧
      resumption c.bytes stop = resumption c.bytes c.position ∧
      ∀ n, c.answers (ds.length + n) =
        ds.map c.answerOf ++ (c.after (List.replicate ds.length .next)).answers n := by
  induction ds generalizing c with
  | nil => exact ⟨c.position, c.payload, rfl, h, rfl, fun n => by simp [after]⟩
  | cons d ds ih =>
    obtain ⟨stop, range, found, -, ahead, same⟩ := next_finds h
    obtain ⟨i, q, rest, none, last, answers⟩ :=
      ih (c := { c with position := stop, payload := range }) ahead
    refine ⟨i, q, ?_, none, last.trans same, fun n => ?_⟩
    · rw [List.length_cons, after_next_succ, found, rest]
    · rw [List.length_cons, Nat.add_right_comm, after_next_succ, Capture.answers, found, answers]
      rfl

end Lidar.Capture
