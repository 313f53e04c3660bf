import Lidar.Proofs.Capture.Calls
import Lidar.Proofs.Capture.Recording

namespace Lidar.Capture

/-- The answer that hands a datagram out. -/
def Delivery.answer (d : Delivery) : Pull := .packet d.sender d.payload

/-- The fraction of the time stamp still fits 32 bits when it counts nanoseconds. -/
def Delivery.Fits (nanoseconds : Bool) (d : Delivery) : Prop :=
  nanoseconds = true ∨ d.fraction.toNat * 1000 < UInt32.size

instance (nanoseconds : Bool) (d : Delivery) : Decidable (d.Fits nanoseconds) :=
  inferInstanceAs (Decidable (_ ∨ _))

/-- The next answers are the datagrams in turn, and exhaustion. -/
def Replays (c : Capture) (ds : List Delivery) : Prop :=
  c.answers (ds.length + 1) = ds.map Delivery.answer ++ [.exhausted]

/-- The file opens as a capture that replays the datagrams, at first and after every reset. -/
def Replayed (b : Bytes) (ds : List Delivery) : Prop :=
  ∃ c, ofFile b false = .ok c ∧ c.Replays ds ∧ ∀ calls, (c.after calls).reset.Replays ds

section Replay

variable {b : Bytes} {nanoseconds : Bool} {c : Capture}

theorem answerOf_of_fits {d : Delivery} (h : d.Fits c.nanoseconds) : c.answerOf d = d.answer := by
  have fits : c.fitsNanoseconds d.fraction := by
    rw [fitsNanoseconds, Bool.or_eq_true, decide_eq_true_iff]
    exact h
  rw [answerOf, if_pos fits, Delivery.answer]

theorem replays_ahead {ds : List Delivery} (h : deliveries c.bytes c.position = ds)
    (once : c.looped = false) (fits : ∀ d ∈ ds, d.Fits c.nanoseconds) : c.Replays ds := by
  obtain ⟨stop, range, there, none, -, answers⟩ := after_deliveries h
  have handed : ds.map c.answerOf = ds.map Delivery.answer := by
    apply List.map_congr_left
    intro d hd
    exact answerOf_of_fits (fits d hd)
  have last : (c.after (List.replicate ds.length .next)).next.1 = .exhausted := by
    rw [there, next_rests none fun again => by simp [once] at again]
  rw [Replays, answers 1, handed, Capture.answers, last]
  rfl

/-- Resetting forgets all that happened but the last payload. -/
theorem reset_after (calls : List Call) :
    ∃ payload, ((opened b nanoseconds false).after calls).reset =
      { opened b nanoseconds false with payload } := by
  obtain ⟨position, payload, same⟩ := after_keeps (opened b nanoseconds false) calls
  exact ⟨payload, by rw [same]; rfl⟩

theorem replayed_of_headed (headed : Headed b nanoseconds)
    (fits : ∀ d ∈ deliveries b headerSize, d.Fits nanoseconds) :
    Replayed b (deliveries b headerSize) := by
  refine ⟨opened b nanoseconds false, ofFile_eq_ok_iff.2 ⟨nanoseconds, headed, rfl⟩, ?_, ?_⟩
  · exact replays_ahead rfl rfl fits
  · intro calls
    obtain ⟨payload, same⟩ := reset_after (b := b) calls
    rw [same]
    exact replays_ahead rfl rfl fits

end Replay

/-- Replaying yields what the complete records from the header on deliver, and so gives back what
was written into a recording. -/
theorem replayed_as_recorded :
    (∀ (r : Record) (d : Delivery), r.delivery? = some d ↔ r.Delivers d) ∧
      (∀ b nanoseconds, Headed b nanoseconds →
        (∀ d ∈ deliveries b headerSize, d.Fits nanoseconds) →
        Replayed b (deliveries b headerSize)) ∧
      ∀ w : Recording, (∀ d ∈ w.deliveries, d.Fits w.nanoseconds) →
        Replayed w.file w.deliveries := by
  refine ⟨?_, ?_, ?_⟩
  · intro r d
    exact Record.delivery?_eq_some_iff
  · intro b nanoseconds headed fits
    exact replayed_of_headed headed fits
  · intro w fits
    rw [← w.deliveries_file] at fits ⊢
    exact replayed_of_headed w.headed fits

/-- Zeros wherever nobody reads, with an optional tag, some words of options and some padding. -/
def blankEnvelope (tag : Option (Vector UInt8 2)) (optionWords : Fin 11) (padding : Nat) :
    Envelope where
  stations := .replicate 12 0
  tag
  service := .replicate 8 0
  headerSum := .replicate 2 0
  target := .replicate 4 0
  optionWords
  options := .replicate (4 * optionWords) 0
  targetPort := .replicate 2 0
  payloadSum := .replicate 2 0
  padding := .replicate padding 0

/-- Two datagrams with a record of control traffic in between. -/
def mixedRecording : Recording where
  nanoseconds := false
  unread := .replicate 12 0
  entries := [
    .datagram {
      sender := ⟨192, 168, 1, 201⟩, port := 10110, payload := #[0xEE, 0xFF, 1]
      envelope := blankEnvelope none 0 0
      seconds := 1600000000, fraction := 0, sent := 45
      payload_fits := by decide, frame_fits := by decide, uncut := by decide },
    .other ⟨⟨1600000000, 100, 42, 42⟩, .replicate 42 0⟩ rfl (by decide),
    .datagram {
      sender := ⟨192, 168, 1, 201⟩, port := 10110, payload := #[0xEE, 0xFF, 2, 3]
      envelope := blankEnvelope (some (.replicate 2 0)) 10 7
      seconds := 1600000000, fraction := 200, sent := 0
      payload_fits := by decide, frame_fits := by decide, uncut := by decide }]

theorem replayed_as_mixedRecording :
    Replayed mixedRecording.file (deliveries mixedRecording.file headerSize) ∧
      Replayed mixedRecording.file
        [⟨.v4 ⟨192, 168, 1, 201⟩ 10110, #[0xEE, 0xFF, 1], 0⟩,
          ⟨.v4 ⟨192, 168, 1, 201⟩ 10110, #[0xEE, 0xFF, 2, 3], 200⟩] := by
  have fits : ∀ d ∈ mixedRecording.deliveries, d.Fits mixedRecording.nanoseconds := by decide
  have found : ∀ d ∈ deliveries mixedRecording.file headerSize, d.Fits false := by
    rw [mixedRecording.deliveries_file]
    exact fits
  exact ⟨replayed_as_recorded.2.1 _ _ mixedRecording.headed found, replayed_as_recorded.2.2 _ fits⟩

end Lidar.Capture
