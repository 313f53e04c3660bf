import Lidar.Capture.Basic
import Mathlib.Tactic.ByContra
import Lidar.Proofs.Capture.Datagram

namespace Lidar.Capture

/-- A record that lies completely in a file. -/
structure Record where
  header : RecordHeader
  frame : Bytes
deriving DecidableEq

def record? (b : Bytes) (i : Nat) : Option Record := do
  let h ← recordHeader? b i
  let start := i + recordHeaderSize
  let stop := start + h.stored.toNat
  if stop ≤ b.size then some ⟨h, b.extract start stop⟩ else none

/-- The bytes of a record in a file. -/
def Record.size (r : Record) : Nat := recordHeaderSize + r.header.stored.toNat

/-- A datagram as a caller gets it, with the fraction of its time stamp. -/
structure Delivery where
  sender : Address
  payload : Bytes
  fraction : UInt32
deriving DecidableEq

/-- What a record delivers: nothing if its frame was cut on purpose or holds no datagram. -/
def Record.delivery? (r : Record) : Option Delivery :=
  if r.header.stored < r.header.sent then none
  else (datagram? r.frame).map fun d =>
    ⟨d.sender, r.frame.extract d.start (d.start + d.length), r.header.fraction⟩

/-- The record is not cut on purpose, and its frame carries the datagram: the payload is what the
length in the UDP header leaves behind that header. -/
def Record.Delivers (r : Record) (d : Delivery) : Prop :=
  ¬r.header.stored < r.header.sent ∧ ∃ ip udp length sender port,
    Carries r.frame ip udp length sender port ∧
      d = ⟨.v4 sender port, r.frame.extract (udp + udpHeaderSize) (udp + length.toNat),
        r.header.fraction⟩

theorem Record.delivery?_eq_some_iff {r : Record} {d : Delivery} :
    r.delivery? = some d ↔ r.Delivers d := by
  rw [Record.delivery?, Record.Delivers]
  split_ifs with cut
  · simp [cut]
  · simp only [Option.map_eq_some_iff, datagram?_eq_some_iff_carries, cut, not_false_eq_true,
      true_and]
    constructor
    · intro found
      obtain ⟨_, ⟨ip, udp, length, sender, port, carried, rfl⟩, rfl⟩ := found
      have long := carried.long
      refine ⟨ip, udp, length, sender, port, carried, ?_⟩
      rw [Nat.add_assoc, Nat.add_sub_cancel' long]
    · intro found
      obtain ⟨ip, udp, length, sender, port, carried, rfl⟩ := found
      have long := carried.long
      refine ⟨_, ⟨ip, udp, length, sender, port, carried, rfl⟩, ?_⟩
      rw [Nat.add_assoc, Nat.add_sub_cancel' long]

theorem record?_eq_some_iff {b : Bytes} {i : Nat} {r : Record} :
    record? b i = some r ↔ recordHeader? b i = some r.header ∧ i + r.size ≤ b.size ∧
      r.frame = b.extract (i + recordHeaderSize) (i + r.size) := by
  obtain ⟨header, frame⟩ := r
  simp only [record?, Record.size, ← Nat.add_assoc, Option.bind_eq_bind, Option.bind_eq_some_iff]
  constructor
  · intro given
    obtain ⟨h, hh, found⟩ := given
    split_ifs at found with fits
    cases found
    exact ⟨hh, fits, rfl⟩
  · intro found
    obtain ⟨hh, fits, rfl⟩ := found
    exact ⟨header, hh, if_pos fits⟩

theorem cut_of_record?_none {b : Bytes} {i : Nat} {h : RecordHeader} (hr : record? b i = none)
    (hh : recordHeader? b i = some h) : b.size < i + recordHeaderSize + h.stored.toNat := by
  by_contra fits
  rw [Nat.not_lt, Nat.add_assoc] at fits
  have whole : record? b i = some ⟨h, b.extract (i + recordHeaderSize)
      (i + (recordHeaderSize + h.stored.toNat))⟩ := record?_eq_some_iff.2 ⟨hh, fits, rfl⟩
  rw [hr] at whole
  cases whole

/-- The records from `i` on, up to the first that is not completely in the file. -/
def records (b : Bytes) (i : Nat) : List Record :=
  match _h : record? b i with
  | none => []
  | some r => r :: records b (i + r.size)
termination_by b.size - i
decreasing_by
  have inside := (record?_eq_some_iff.1 _h).2.1
  simp only [Record.size, recordHeaderSize] at inside ⊢
  omega

def deliveries (b : Bytes) (i : Nat) : List Delivery := (records b i).filterMap Record.delivery?

/-- Where the records from `i` on end. -/
def recordsEnd (b : Bytes) (i : Nat) : Nat := (records b i).foldl (fun j r => j + r.size) i

/-- Where reading rests once the records from `i` on are through: behind the header of a record
whose frame the file cuts short, and else at their end. -/
def resumption (b : Bytes) (i : Nat) : Nat :=
  if (recordHeader? b (recordsEnd b i)).isSome then recordsEnd b i + recordHeaderSize
  else recordsEnd b i

section Walk

variable {b : Bytes} {i : Nat} {r : Record}

theorem records_none (h : record? b i = none) : records b i = [] := by
  rw [records]
  split
  · rfl
  · simp_all

theorem records_some (h : record? b i = some r) : records b i = r :: records b (i + r.size) := by
  rw [records]
  split <;> simp_all

theorem recordsEnd_some (h : record? b i = some r) :
    recordsEnd b i = recordsEnd b (i + r.size) := by
  rw [recordsEnd, records_some h, List.foldl_cons, recordsEnd]

theorem resumption_some (h : record? b i = some r) :
    resumption b i = resumption b (i + r.size) := by
  rw [resumption, resumption, recordsEnd_some h]

theorem deliveries_none (h : record? b i = none) : deliveries b i = [] := by
  rw [deliveries, records_none h]
  rfl

theorem deliveries_some (h : record? b i = some r) :
    deliveries b i = r.delivery?.toList ++ deliveries b (i + r.size) := by
  rw [deliveries, records_some h, List.filterMap_cons]
  cases r.delivery? <;> rfl

theorem resumption_none (h : record? b i = none) :
    resumption b i = if (recordHeader? b i).isSome then i + recordHeaderSize else i := by
  simp [resumption, recordsEnd, records_none h]

theorem readRecord_none (h : record? b i = none) : readRecord b i = .stopped (resumption b i) := by
  rw [resumption_none h, readRecord]
  cases hh : recordHeader? b i with
  | none => rfl
  | some header =>
    have cut := cut_of_record?_none h hh
    simp [cut]

theorem readRecord_some (h : record? b i = some r) :
    readRecord b i =
      if r.header.stored < r.header.sent then .passed (i + r.size)
      else match datagram? r.frame with
        | none => .passed (i + r.size)
        | some d => .found (i + r.size) r.header.fraction
            (i + recordHeaderSize + d.start, d.length) d.sender := by
  obtain ⟨hh, inside, frame⟩ := record?_eq_some_iff.1 h
  rw [readRecord, hh, frame]
  simp only [Record.size, ← Nat.add_assoc] at inside ⊢
  exact if_neg (Nat.not_lt.2 inside)

theorem readRecord_passes (h : record? b i = some r) (hd : r.delivery? = none) :
    readRecord b i = .passed (i + r.size) := by
  rw [readRecord_some h]
  rw [Record.delivery?] at hd
  split_ifs at hd ⊢ with short
  · rfl
  · rw [Option.map_eq_none_iff.1 hd]

theorem readRecord_finds {d : Delivery} (h : record? b i = some r) (hd : r.delivery? = some d) :
    ∃ range, readRecord b i = .found (i + r.size) d.fraction range d.sender ∧
      b.extract range.1 (range.1 + range.2) = d.payload ∧ range.1 ≠ 0 := by
  rw [readRecord_some h]
  rw [Record.delivery?] at hd
  split_ifs at hd ⊢ with short
  obtain ⟨g, hg, rfl⟩ := Option.map_eq_some_iff.1 hd
  obtain ⟨-, inside, frame⟩ := record?_eq_some_iff.1 h
  have within := datagram?_inside hg
  have headed : recordHeaderSize ≤ r.size := Nat.le_add_right _ _
  rw [hg]
  refine ⟨_, rfl, ?_, by simp [recordHeaderSize]⟩
  rw [frame, Array.size_extract] at within
  rw [frame, Array.extract_extract]
  congr 1
  omega

theorem seek_passes {j : Nat} (h : readRecord b i = .passed j) : seek b i = seek b j := by
  rw [seek]
  split <;> simp_all

theorem seek_stops (h : deliveries b i = []) : seek b i = .stopped (resumption b i) := by
  induction i using records.induct b with
  | case1 i hr =>
    rw [seek, readRecord_none hr]
  | case2 i r hr ih =>
    rw [deliveries_some hr, List.append_eq_nil_iff, Option.toList_eq_nil_iff] at h
    rw [seek_passes (readRecord_passes hr h.1), ih h.2, resumption_some hr]

theorem seek_finds {d : Delivery} {ds : List Delivery} (h : deliveries b i = d :: ds) :
    ∃ stop range, seek b i = .found stop d.fraction range d.sender ∧
      b.extract range.1 (range.1 + range.2) = d.payload ∧ range.1 ≠ 0 ∧
      deliveries b stop = ds ∧ resumption b stop = resumption b i := by
  induction i using records.induct b with
  | case1 i hr => simp [deliveries_none hr] at h
  | case2 i r hr ih =>
    rw [deliveries_some hr] at h
    cases hd : r.delivery? with
    | none =>
      rw [hd] at h
      rw [seek_passes (readRecord_passes hr hd), resumption_some hr]
      exact ih h
    | some e =>
      rw [hd] at h
      obtain ⟨rfl, rfl⟩ := List.cons.inj h
      obtain ⟨range, found, payload, behind⟩ := readRecord_finds hr hd
      refine ⟨_, range, ?_, payload, behind, rfl, (resumption_some hr).symm⟩
      rw [seek, found]

end Walk

/-- The answer that hands a datagram out, or the fault that its time stamp does not fit. -/
def answerOf (c : Capture) (d : Delivery) : Pull :=
  if c.fitsNanoseconds d.fraction then .packet d.sender d.payload
  else .aborted (.fractionOverflow d.fraction)

section Step

variable {c : Capture}

theorem step_stops (h : deliveries c.bytes c.position = []) :
    c.step = (none, { c with position := resumption c.bytes c.position }) := by
  rw [step, seek_stops h]

theorem step_finds {d : Delivery} {ds : List Delivery}
    (h : deliveries c.bytes c.position = d :: ds) :
    ∃ stop range, c.step = (some (c.answerOf d), { c with position := stop, payload := range }) ∧
      range.1 ≠ 0 ∧ deliveries c.bytes stop = ds ∧
      resumption c.bytes stop = resumption c.bytes c.position := by
  obtain ⟨stop, range, found, payload, behind, rest, same⟩ := seek_finds h
  refine ⟨stop, range, ?_, behind, rest, same⟩
  have fits : ({ c with position := stop, payload := range } : Capture).fitsNanoseconds d.fraction =
      c.fitsNanoseconds d.fraction := rfl
  rw [step, found]
  simp only [fits, answerOf, ← payload]
  split_ifs <;> rfl

end Step

end Lidar.Capture
