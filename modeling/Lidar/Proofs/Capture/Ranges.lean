import Lidar.Proofs.Capture.FrameRanges
import Lidar.Proofs.Capture.Restart

namespace Lidar.Capture

/-- Nanoseconds in one count of a time stamp's fraction. -/
def fractionScale (nanoseconds : Bool) : Nat := if nanoseconds then 1 else 1000

def readRecordChecked (b : Bytes) (nanoseconds : Bool) (i : Nat) : Except Excess Reading :=
  match recordHeader? b i with
  | none => .ok (.stopped i)
  | some h => do
    let start ← fitAddress (i + recordHeaderSize)
    let stop ← fitAddress (start + h.stored.toNat)
    if b.size < stop then return .stopped start
    else if h.stored < h.sent then return .passed stop
    else
      match ← datagramChecked (← b.slice start stop) with
      | none => return .passed stop
      | some d =>
        let place ← fitAddress (start + d.start)
        let _ ← fit UInt32.size (h.fraction.toNat * fractionScale nanoseconds)
        return .found stop h.fraction (place, d.length) d.sender

/-- The time stamp of a datagram counts more nanoseconds than a word holds. -/
def Delivery.excess (d : Delivery) : Excess := .word (d.fraction.toNat * 1000) UInt32.size

/-- A reading, or what is wrong with its time stamp. -/
def Reading.checked (nanoseconds : Bool) : Reading → Except Excess Reading
  | .found stop fraction payload sender =>
    if nanoseconds || fraction.toNat * 1000 < UInt32.size then
      .ok (.found stop fraction payload sender)
    else .error (.word (fraction.toNat * 1000) UInt32.size)
  | r => .ok r

section Record

variable {b : Bytes} {nanoseconds : Bool} {i : Nat}

theorem readRecord_of_checked {r : Reading} (h : readRecordChecked b nanoseconds i = .ok r) :
    readRecord b i = r := by
  rw [readRecordChecked] at h
  rw [readRecord]
  cases header : recordHeader? b i with
  | none =>
    rw [header] at h
    exact Except.ok.inj h
  | some record =>
    simp only [header, fitAddress, bind_eq_ok_iff, fit_eq_ok_iff] at h
    obtain ⟨start, ⟨-, rfl⟩, stop, ⟨-, rfl⟩, h⟩ := h
    simp only
    split_ifs at h ⊢ with cut short
    · exact Except.ok.inj h
    · exact Except.ok.inj h
    · simp only [bind_eq_ok_iff, Bytes.slice_eq_ok_iff, datagramChecked_eq] at h
      obtain ⟨frame, ⟨-, rfl⟩, found, same, h⟩ := h
      obtain rfl := Except.ok.inj same
      cases there : datagram? (b.extract (i + recordHeaderSize)
          (i + recordHeaderSize + record.stored.toNat)) with
      | none =>
        rw [there] at h
        exact Except.ok.inj h
      | some d =>
        simp only [there, bind_eq_ok_iff, fit_eq_ok_iff] at h
        obtain ⟨place, ⟨-, rfl⟩, -, -, h⟩ := h
        exact Except.ok.inj h

theorem recordHeader?_inside {h : RecordHeader} (hh : recordHeader? b i = some h) :
    i + recordHeaderSize ≤ b.size := by
  simp only [recordHeader?, Option.bind_eq_bind, Option.bind_eq_some_iff] at hh
  obtain ⟨-, -, -, -, -, -, sent, last, -⟩ := hh
  have inside := Bytes.word32?_isSome.1 (Option.isSome_of_eq_some last)
  rw [recordHeaderSize]
  omega

theorem fit_scaled (fraction : UInt32) :
    fit UInt32.size (fraction.toNat * fractionScale nanoseconds) =
      if nanoseconds || fraction.toNat * 1000 < UInt32.size then
        .ok (fraction.toNat * fractionScale nanoseconds)
      else .error (.word (fraction.toNat * 1000) UInt32.size) := by
  have bound := fraction.toNat_lt
  cases nanoseconds with
  | true =>
    rw [fractionScale, if_pos rfl, Nat.mul_one]
    exact fit_of_lt bound
  | false =>
    rw [fractionScale, if_neg Bool.false_ne_true, fit, Bool.false_or]
    simp only [decide_eq_true_eq]

/-- The only check that can fail in a record is that of its time stamp. -/
theorem readRecordChecked_eq (memory : Bytes.InMemory b) :
    readRecordChecked b nanoseconds i = (readRecord b i).checked nanoseconds := by
  have address : UInt64.size = 18446744073709551616 := rfl
  rw [Bytes.InMemory] at memory
  rw [readRecordChecked, readRecord]
  cases header : recordHeader? b i with
  | none => rfl
  | some h =>
    have headed := recordHeader?_inside header
    have stored := h.stored.toNat_lt
    simp only
    rw [fitAddress_of_lt (by omega), ok_bind, fitAddress_of_lt (by omega), ok_bind]
    split_ifs with cut short
    · rfl
    · rfl
    · rw [Bytes.slice_of_le (by omega) (by omega), ok_bind, datagramChecked_eq, ok_bind]
      cases there : datagram? (b.extract (i + recordHeaderSize)
          (i + recordHeaderSize + h.stored.toNat)) with
      | none => rfl
      | some d =>
        have inside := datagram?_inside there
        rw [Array.size_extract] at inside
        simp only
        rw [fitAddress_of_lt (by omega), ok_bind, Reading.checked]
        rw [fit_scaled]
        split_ifs with fits
        · rfl
        · rfl

end Record

/-- Records from `i` on, up to the first datagram or to where reading stops. -/
def seekChecked (b : Bytes) (nanoseconds : Bool) (i : Nat) : Except Excess Reading :=
  match _h : readRecordChecked b nanoseconds i with
  | .ok (.passed j) => seekChecked b nanoseconds j
  | r => r
termination_by b.size - i
decreasing_by
  have := readRecord_passed (readRecord_of_checked _h)
  omega

def stepChecked (c : Capture) : Except Excess (Option Pull × Capture) := do
  match ← seekChecked c.bytes c.nanoseconds c.position with
  | .found position _ (start, length) sender =>
    let stop ← fitAddress (start + length)
    let payload ← c.bytes.slice start stop
    return (some (.packet sender payload), { c with position, payload := (start, length) })
  | .passed position => return (none, { c with position })
  | .stopped position => return (none, { c with position })

/-- The next datagram, with a bound on how often the call may start over. -/
def nextChecked (c : Capture) (restarts : Nat) : Except Excess (Option (Pull × Capture)) := do
  match ← c.stepChecked with
  | (some answer, c) => return some (answer, c)
  | (none, c) =>
    if c.looped ∧ c.payload.1 ≠ 0 then
      match restarts with
      | 0 => return none
      | restarts + 1 => c.reset.nextChecked restarts
    else return some (.exhausted, c)

section Seek

variable {b : Bytes} {nanoseconds : Bool} {i : Nat}

theorem seekChecked_eq (memory : Bytes.InMemory b) :
    seekChecked b nanoseconds i = (seek b i).checked nanoseconds := by
  induction i using seek.induct b with
  | case1 i j passed ih =>
    have once : readRecordChecked b nanoseconds i = .ok (.passed j) := by
      rw [readRecordChecked_eq memory, passed]
      rfl
    rw [seek_passes passed, ← ih, seekChecked]
    split
    · next j' again =>
      rw [once] at again
      cases again
      rfl
    · next other =>
      exact absurd once (other j)
  | case2 i stays =>
    have last : seek b i = readRecord b i := by
      rw [seek]
      split
      · next j passed => exact absurd passed (stays j)
      · rfl
    rw [last, ← readRecordChecked_eq memory, seekChecked]
    split
    · next j passed => exact absurd (readRecord_of_checked passed) (stays j)
    · rfl

theorem readRecord_found_inside {stop : Nat} {fraction : UInt32} {range : Nat × Nat}
    {sender : Address} (h : readRecord b i = .found stop fraction range sender) :
    range.1 + range.2 ≤ b.size := by
  cases there : record? b i with
  | none =>
    rw [readRecord_none there] at h
    cases h
  | some r =>
    obtain ⟨-, inside, frame⟩ := record?_eq_some_iff.1 there
    rw [readRecord_some there] at h
    split_ifs at h
    cases located : datagram? r.frame with
    | none =>
      rw [located] at h
      cases h
    | some d =>
      have within := datagram?_inside located
      rw [frame, Array.size_extract] at within
      rw [located] at h
      cases h
      rw [Record.size] at inside within
      omega

theorem seek_found_inside {stop : Nat} {fraction : UInt32} {range : Nat × Nat}
    {sender : Address} (h : seek b i = .found stop fraction range sender) :
    range.1 + range.2 ≤ b.size := by
  induction i using seek.induct b with
  | case1 i j passed ih => exact ih (seek_passes passed ▸ h)
  | case2 i stays =>
    rw [seek] at h
    split at h
    · next j passed => exact absurd passed (stays j)
    · exact readRecord_found_inside h

end Seek

section Call

variable {c : Capture}

theorem stepChecked_stops (memory : Bytes.InMemory c.bytes)
    (h : deliveries c.bytes c.position = []) : c.stepChecked = .ok c.step := by
  rw [stepChecked, seekChecked_eq memory, seek_stops h, step_stops h]
  rfl

theorem stepChecked_finds (memory : Bytes.InMemory c.bytes) {d : Delivery} {ds : List Delivery}
    (h : deliveries c.bytes c.position = d :: ds) :
    c.stepChecked = if c.fitsNanoseconds d.fraction then .ok c.step else .error d.excess := by
  have address : UInt64.size = 18446744073709551616 := rfl
  obtain ⟨stop, ⟨start, length⟩, found, -⟩ := seek_finds h
  have inside := seek_found_inside found
  rw [Bytes.InMemory] at memory
  rw [stepChecked, seekChecked_eq memory, step, found, Reading.checked, fitsNanoseconds]
  split_ifs with fits
  · rw [ok_bind]
    simp only
    rw [fitAddress_of_lt (by omega), ok_bind,
      Bytes.slice_of_le (Nat.le_add_right _ _) inside, ok_bind]
    have same : ({ c with position := stop, payload := (start, length) } :
        Capture).fitsNanoseconds d.fraction = true := fits
    rw [if_pos same]
    rfl
  · rfl

/-- The datagram that a call comes to hand out: the next one from the position on, or the first of
all if the capture starts over. -/
def awaited? (c : Capture) (restarts : Nat) : Option Delivery :=
  match deliveries c.bytes c.position with
  | d :: _ => some d
  | [] =>
    if (c.looped ∧ c.payload.1 ≠ 0) ∧ restarts ≠ 0 then (deliveries c.bytes headerSize).head?
    else none

/-- The datagram that a call comes to hand out, if its time stamp does not fit. -/
def unscaled? (c : Capture) (restarts : Nat) : Option Delivery :=
  (c.awaited? restarts).filter fun d => !c.fitsNanoseconds d.fraction

theorem unscaled?_of_finds {d : Delivery} {ds : List Delivery}
    (h : deliveries c.bytes c.position = d :: ds) (restarts : Nat) :
    c.unscaled? restarts = if c.fitsNanoseconds d.fraction then none else some d := by
  rw [unscaled?, awaited?, h]
  cases fits : c.fitsNanoseconds d.fraction <;> simp [Option.filter, fits]

theorem unscaled?_of_rests (h : deliveries c.bytes c.position = []) {restarts : Nat}
    (rests : ¬((c.looped ∧ c.payload.1 ≠ 0) ∧ restarts ≠ 0)) : c.unscaled? restarts = none := by
  rw [unscaled?, awaited?, h]
  simp only [if_neg rests]
  rfl

/-- Starting over looks for the same datagram as a call behind the reset. -/
theorem unscaled?_of_restarts (h : deliveries c.bytes c.position = [])
    (again : c.looped ∧ c.payload.1 ≠ 0) (restarts : Nat) :
    c.unscaled? (restarts + 1) = c.reset.unscaled? restarts := by
  have bytes : c.reset.bytes = c.bytes := rfl
  have position : c.reset.position = headerSize := rfl
  have first : c.awaited? (restarts + 1) = (deliveries c.bytes headerSize).head? := by
    rw [awaited?, h]
    exact if_pos ⟨again, Nat.succ_ne_zero _⟩
  have same : c.reset.awaited? restarts = (deliveries c.bytes headerSize).head? := by
    rw [awaited?, bytes, position]
    cases deliveries c.bytes headerSize with
    | cons d ds => rfl
    | nil => simp
  rw [unscaled?, unscaled?, first, same]
  rfl

theorem nextChecked_finds (memory : Bytes.InMemory c.bytes) {d : Delivery} {ds : List Delivery}
    (h : deliveries c.bytes c.position = d :: ds) (restarts : Nat) :
    c.nextChecked restarts =
      if c.fitsNanoseconds d.fraction then .ok (c.nextWithin restarts) else .error d.excess := by
  obtain ⟨stop, range, found, -⟩ := step_finds h
  rw [nextChecked, stepChecked_finds memory h, nextWithin, found]
  split_ifs with fits
  · rfl
  · rfl

theorem nextChecked_rests (memory : Bytes.InMemory c.bytes)
    (h : deliveries c.bytes c.position = []) (rests : ¬(c.looped ∧ c.payload.1 ≠ 0))
    (restarts : Nat) : c.nextChecked restarts = .ok (c.nextWithin restarts) := by
  rw [nextChecked, stepChecked_stops memory h, nextWithin, step_stops h, ok_bind]
  simp only [if_neg rests]
  rfl

theorem nextChecked_restarts (memory : Bytes.InMemory c.bytes)
    (h : deliveries c.bytes c.position = []) (again : c.looped ∧ c.payload.1 ≠ 0)
    (restarts : Nat) : c.nextChecked (restarts + 1) = c.reset.nextChecked restarts := by
  rw [nextChecked, stepChecked_stops memory h, step_stops h, ok_bind]
  exact if_pos again

/-- The only check of a call that can fail is that of the time stamp of the datagram it comes to
hand out. -/
theorem nextChecked_eq (memory : Bytes.InMemory c.bytes) (restarts : Nat) :
    c.nextChecked restarts =
      match c.unscaled? restarts with
      | some d => .error d.excess
      | none => .ok (c.nextWithin restarts) := by
  induction restarts generalizing c with
  | zero =>
    cases ahead : deliveries c.bytes c.position with
    | cons d ds =>
      rw [nextChecked_finds memory ahead, unscaled?_of_finds ahead]
      split_ifs <;> rfl
    | nil =>
      rw [unscaled?_of_rests ahead fun again => again.2 rfl, nextChecked,
        stepChecked_stops memory ahead, nextWithin, step_stops ahead, ok_bind]
      simp only
      split_ifs <;> rfl
  | succ restarts ih =>
    cases ahead : deliveries c.bytes c.position with
    | cons d ds =>
      rw [nextChecked_finds memory ahead, unscaled?_of_finds ahead]
      split_ifs <;> rfl
    | nil =>
      by_cases again : c.looped ∧ c.payload.1 ≠ 0
      · rw [nextChecked_restarts memory ahead again, unscaled?_of_restarts ahead again,
          nextWithin_restarts ahead again]
        exact ih (c := c.reset) memory
      · rw [unscaled?_of_rests ahead fun restarted => again restarted.1]
        exact nextChecked_rests memory ahead again (restarts + 1)

/-- Time stamps in nanoseconds are taken as they are. -/
theorem unscaled?_of_nanoseconds (h : c.nanoseconds = true) (restarts : Nat) :
    c.unscaled? restarts = none := by
  rw [unscaled?, Option.filter_eq_none_iff]
  intro d _
  simp [fitsNanoseconds, h]

theorem mem_of_awaited? {d : Delivery} {restarts : Nat} (h : c.awaited? restarts = some d) :
    ∃ i, d ∈ deliveries c.bytes i := by
  rw [awaited?] at h
  split at h
  · next first rest ahead =>
    cases h
    exact ⟨c.position, ahead ▸ List.mem_cons_self⟩
  · split_ifs at h
    exact ⟨headerSize, List.mem_of_head? h⟩

/-- Fractions below this one stay below the words of 32 bits as nanoseconds. -/
def fractionLimit : Nat := 4294968

theorem unscaled?_of_small {restarts : Nat}
    (h : ∀ i, ∀ d ∈ deliveries c.bytes i, d.fraction.toNat < fractionLimit) :
    c.unscaled? restarts = none := by
  rw [unscaled?, Option.filter_eq_none_iff]
  intro d awaited
  obtain ⟨i, listed⟩ := mem_of_awaited? awaited
  have small := h i d listed
  have scaled : d.fraction.toNat * 1000 < UInt32.size := by
    rw [fractionLimit] at small
    show _ < 4294967296
    omega
  simp [fitsNanoseconds, scaled]

end Call

theorem after_nanoseconds (c : Capture) (calls : List Call) :
    (c.after calls).nanoseconds = c.nanoseconds := by
  obtain ⟨position, payload, same⟩ := after_keeps c calls
  rw [same]

/-- After any calls, the next one keeps all its words and ranges, and answers as it does without
checks, unless it comes to a datagram whose time stamp does not fit 32 bits in nanoseconds. Files
that count nanoseconds have none, nor have those whose fractions are small. -/
theorem calls_stay_in_range {b : Bytes} {looped : Bool} {c : Capture} (h : ofFile b looped = .ok c)
    (memory : b.InMemory) (calls : List Call) (restarts : Nat) :
    (c.after calls).nextChecked restarts =
        (match (c.after calls).unscaled? restarts with
        | some d => .error d.excess
        | none => .ok ((c.after calls).nextWithin restarts)) ∧
      (c.nanoseconds = true ∨ (∀ i, ∀ d ∈ deliveries b i, d.fraction.toNat < fractionLimit) →
        (c.after calls).nextChecked restarts = .ok ((c.after calls).nextWithin restarts)) := by
  obtain ⟨nanoseconds, -, rfl⟩ := ofFile_eq_ok_iff.1 h
  have file : ((opened b nanoseconds looped).after calls).bytes = b := after_bytes _ calls
  have checked := nextChecked_eq (c := (opened b nanoseconds looped).after calls)
    (by rwa [file]) restarts
  refine ⟨checked, fun tame => ?_⟩
  have fits : ((opened b nanoseconds looped).after calls).unscaled? restarts = none := by
    rcases tame with counted | small
    · exact unscaled?_of_nanoseconds ((after_nanoseconds _ calls).trans counted) restarts
    · exact unscaled?_of_small (by rwa [file])
  rw [checked, fits]

/-- A datagram whose time stamp has 4294968 microseconds. -/
def lateFile : Bytes :=
  #[0xd4, 0xc3, 0xb2, 0xa1, 2, 0, 4, 0, 0, 0, 0, 0, 0, 0, 0, 0, 0, 0, 0, 0, 1, 0, 0, 0,
    0, 0, 0, 0, 0x38, 0x89, 0x41, 0, 0x2b, 0, 0, 0, 0x2b, 0, 0, 0,
    0, 0, 0, 0, 0, 0, 0, 0, 0, 0, 0, 0, 8, 0,
    0x45, 0, 0, 0, 0, 0, 0, 0, 0x40, 0x11, 0, 0, 0x0a, 0, 0, 1, 0, 0, 0, 0,
    0, 1, 0, 0, 0, 9, 0, 0, 0xaa]

/-- The datagram of the late file. -/
def lateDelivery : Delivery := ⟨.v4 ⟨10, 0, 0, 1⟩ 1, #[0xaa], 4294968⟩

theorem deliveries_lateFile : deliveries lateFile headerSize = [lateDelivery] := by
  have only : record? lateFile headerSize =
      some ⟨⟨0, 4294968, 43, 43⟩, lateFile.extract 40 83⟩ := by decide +kernel
  have behind : record? lateFile 83 = none := by decide +kernel
  have delivered : Record.delivery? ⟨⟨0, 4294968, 43, 43⟩, lateFile.extract 40 83⟩ =
      some lateDelivery := by decide +kernel
  rw [deliveries_some only, delivered]
  exact congrArg _ (deliveries_none behind)

theorem calls_stay_in_range_lateFile :
    ofFile lateFile true = .ok (opened lateFile false true) ∧ lateFile.InMemory ∧
      (opened lateFile false true).nextChecked 0 = .error (.word 4294968000 4294967296) := by
  have memory : lateFile.InMemory := show 2 * 83 < UInt64.size by decide
  have awaited : (opened lateFile false true).unscaled? 0 = some lateDelivery := by
    rw [unscaled?_of_finds deliveries_lateFile]
    rfl
  have checked : (opened lateFile false true).nextChecked 0 =
      match (opened lateFile false true).unscaled? 0 with
      | some d => .error d.excess
      | none => .ok ((opened lateFile false true).nextWithin 0) :=
    (calls_stay_in_range rfl memory [] 0).1
  rw [awaited] at checked
  exact ⟨rfl, memory, checked⟩

theorem overflow_in_lateFile :
    ∃ c, ofFile lateFile false = .ok c ∧ c.next.1 = .aborted (.fractionOverflow 4294968) :=
  ⟨opened lateFile false false, rfl, by decide +kernel⟩

end Lidar.Capture
