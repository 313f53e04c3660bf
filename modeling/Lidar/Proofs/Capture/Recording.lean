import Lidar.Proofs.Capture.Envelope
import Lidar.Proofs.Capture.Opening
import Lidar.Proofs.Capture.Walk

namespace Lidar.Capture

namespace RecordHeader

def bytes (h : RecordHeader) : Bytes :=
  Bytes.ofWord32 h.seconds ++ Bytes.ofWord32 h.fraction ++ Bytes.ofWord32 h.stored ++
    Bytes.ofWord32 h.sent

theorem size_bytes (h : RecordHeader) : h.bytes.size = recordHeaderSize := by
  simp only [bytes, Array.size_append, Bytes.size_ofWord32, recordHeaderSize]

theorem recordHeader?_of_holds {h : RecordHeader} {b : Bytes} {i : Nat}
    (stands : b.Holds i h.bytes) : recordHeader? b i = some h := by
  simp only [bytes, Bytes.holds_append, Array.size_append, Bytes.size_ofWord32, and_assoc] at stands
  obtain ⟨seconds, fraction, stored, sent⟩ := stands
  simp [recordHeader?, seconds.word32?, fraction.word32?, stored.word32?, sent.word32?]

end RecordHeader

namespace Record

/-- The header states the size of the frame that follows it. -/
def Whole (r : Record) : Prop := r.frame.size = r.header.stored.toNat

def bytes (r : Record) : Bytes := r.header.bytes ++ r.frame

variable {r : Record} {b : Bytes} {i : Nat}

theorem size_bytes (whole : r.Whole) : r.bytes.size = r.size := by
  rw [bytes, Array.size_append, RecordHeader.size_bytes, whole, size]

theorem record?_of_holds (whole : r.Whole) (h : b.Holds i r.bytes) : record? b i = some r := by
  have size := size_bytes whole
  have headed : 0 < r.bytes.size := by
    rw [size, Record.size, recordHeaderSize]
    omega
  obtain ⟨front, back⟩ := Bytes.holds_append.1 h
  refine record?_eq_some_iff.2 ⟨RecordHeader.recordHeader?_of_holds front, ?_, ?_⟩
  · rw [← size]
    exact h.size_le headed
  · have frame := back.extract
    rw [RecordHeader.size_bytes, whole, Nat.add_assoc] at frame
    exact frame.symm

end Record

/-- The records one after another. -/
def written : List Record → Bytes
  | [] => #[]
  | r :: rs => r.bytes ++ written rs

theorem record?_at_end {b : Bytes} {i : Nat} (h : b.size ≤ i) : record? b i = none := by
  cases found : record? b i with
  | none => rfl
  | some r =>
    have header := (record?_eq_some_iff.1 found).1
    have inside := recordHeader?_lt header
    omega

/-- Records that were written up to the end of the file are read back. -/
theorem records_of_holds {b : Bytes} {rs : List Record} (whole : ∀ r ∈ rs, r.Whole) {i : Nat}
    (h : b.Holds i (written rs)) (last : i + (written rs).size = b.size) : records b i = rs := by
  induction rs generalizing i with
  | nil =>
    apply records_none
    apply record?_at_end
    exact Nat.le_of_eq last.symm
  | cons r rs ih =>
    have size := Record.size_bytes (whole r List.mem_cons_self)
    obtain ⟨front, back⟩ := Bytes.holds_append.1 h
    rw [records_some (Record.record?_of_holds (whole r List.mem_cons_self) front)]
    congr 1
    rw [size] at back
    rw [written, Array.size_append, size, ← Nat.add_assoc] at last
    exact ih (fun s hs => whole s (List.mem_cons_of_mem r hs)) back last

/-- A datagram to be written: who sends what, and all that may vary around it. -/
structure Sending where
  sender : IPv4
  port : UInt16
  payload : Bytes
  envelope : Envelope
  seconds : UInt32
  fraction : UInt32
  sent : UInt32
  payload_fits : payload.size < 65528
  frame_fits : (envelope.frame sender port payload).size < UInt32.size
  uncut : sent.toNat ≤ (envelope.frame sender port payload).size

namespace Sending

def frame (s : Sending) : Bytes := s.envelope.frame s.sender s.port s.payload

def record (s : Sending) : Record :=
  ⟨⟨s.seconds, s.fraction, UInt32.ofNat s.frame.size, s.sent⟩, s.frame⟩

def delivery (s : Sending) : Delivery := ⟨.v4 s.sender s.port, s.payload, s.fraction⟩

theorem record_whole (s : Sending) : s.record.Whole := (UInt32.toNat_ofNat_of_lt s.frame_fits).symm

theorem record_delivery? (s : Sending) : s.record.delivery? = some s.delivery := by
  obtain ⟨start, found, payload⟩ : ∃ start,
      datagram? s.record.frame = some ⟨.v4 s.sender s.port, start, s.payload.size⟩ ∧
        s.record.frame.extract start (start + s.payload.size) = s.payload :=
    s.envelope.datagram?_frame s.sender s.port s.payload s.payload_fits
  have uncut : ¬s.record.header.stored < s.record.header.sent := by
    rw [UInt32.lt_iff_toNat_lt, Nat.not_lt, ← s.record_whole]
    exact s.uncut
  rw [Record.delivery?, if_neg uncut, found]
  simp only [Option.map_some, payload]
  rfl

end Sending

/-- A datagram, or any record that delivers none. -/
inductive Entry where
  | datagram (s : Sending)
  | other (r : Record) (whole : r.Whole) (silent : r.delivery? = none)

namespace Entry

def record : Entry → Record
  | datagram s => s.record
  | other r _ _ => r

def delivery? : Entry → Option Delivery
  | datagram s => some s.delivery
  | other _ _ _ => none

theorem record_whole (e : Entry) : e.record.Whole := by
  cases e with
  | datagram s => exact s.record_whole
  | other r whole silent => exact whole

theorem record_delivery? (e : Entry) : e.record.delivery? = e.delivery? := by
  cases e with
  | datagram s => exact s.record_delivery?
  | other r whole silent => exact silent

end Entry

/-- A capture to be written. -/
structure Recording where
  nanoseconds : Bool
  /-- Time zone, accuracy and longest frame, which nobody reads. -/
  unread : Vector UInt8 12
  entries : List Entry

namespace Recording

def header (w : Recording) : Bytes :=
  Bytes.ofWord32 (magicOf w.nanoseconds) ++ Bytes.ofWord16 2 ++ Bytes.ofWord16 4 ++
    w.unread.toArray ++ Bytes.ofWord32 1

def file (w : Recording) : Bytes := w.header ++ written (w.entries.map Entry.record)

/-- The datagrams in the order they were written. -/
def deliveries (w : Recording) : List Delivery := w.entries.filterMap Entry.delivery?

variable (w : Recording)

theorem size_header : w.header.size = headerSize := by
  simp only [header, Array.size_append, Bytes.size_ofWord32, Bytes.size_ofWord16,
    Vector.size_toArray, headerSize]

theorem headed : Headed w.file w.nanoseconds := by
  have h := (Bytes.holds_append.1 (Bytes.holds_self w.file)).1
  simp only [header, Bytes.holds_append, Array.size_append, Bytes.size_ofWord32,
    Bytes.size_ofWord16, Vector.size_toArray, Nat.zero_add, and_assoc] at h
  obtain ⟨magic, major, minor, -, network⟩ := h
  exact ⟨magic.word32?, major.word16?, minor.word16?, network.word32?⟩

theorem records_file : records w.file headerSize = w.entries.map Entry.record := by
  have behind := (Bytes.holds_append.1 (Bytes.holds_self w.file)).2
  rw [Nat.zero_add, size_header] at behind
  apply records_of_holds _ behind
  · rw [file, Array.size_append, size_header]
  · intro r hr
    obtain ⟨e, -, rfl⟩ := List.mem_map.1 hr
    exact e.record_whole

theorem deliveries_file : Capture.deliveries w.file headerSize = w.deliveries := by
  have same : Record.delivery? ∘ Entry.record = Entry.delivery? := funext Entry.record_delivery?
  rw [Capture.deliveries, records_file, List.filterMap_map, same, deliveries]

end Recording

end Lidar.Capture
