import Lidar.Capture.Udp
import Lidar.Source.Basic

namespace Lidar

/-- Network traffic in a pcap file with little-endian words, and how far it has been replayed. A
file header is followed by records of a header and a frame. -/
structure Capture where
  bytes : Bytes
  /-- Time stamps count nanoseconds instead of microseconds. -/
  nanoseconds : Bool
  looped : Bool
  /-- Where the next record is expected. -/
  position : Nat
  /-- Start and length of the last payload, zero before the first. -/
  payload : Nat × Nat
deriving DecidableEq

namespace Capture

def headerSize : Nat := 24

def recordHeaderSize : Nat := 16

/-- The words in front of a record's frame. -/
structure RecordHeader where
  seconds : UInt32
  fraction : UInt32
  /-- Bytes of the frame in the file. -/
  stored : UInt32
  /-- Bytes of the frame on the network. -/
  sent : UInt32
deriving DecidableEq

def recordHeader? (b : Bytes) (i : Nat) : Option RecordHeader := do
  return {
    seconds := ← b.word32? i
    fraction := ← b.word32? (i + 4)
    stored := ← b.word32? (i + 8)
    sent := ← b.word32? (i + 12) }

def endOfFile : TransportError := { kind := .unexpectedEnd, text := none }

def invalid (kind : TransportKind) (text : String) : TransportError := { kind, text := some text }

/-- Whether time stamps count nanoseconds, by the first word of the file. -/
def nanosecondsOf (magic : UInt32) : Except TransportError Bool :=
  if magic = 0xA1B2C3D4 then .ok false
  else if magic = 0xA1B23C4D then .ok true
  else if magic = 0xD4C3B2A1 ∨ magic = 0x4D3CB2A1 then
    .error (invalid .invalidInput "big-endian pcap files are not supported")
  else .error (invalid .invalidInput "invalid pcap magic number")

def need {α : Type} (x : Option α) : Except TransportError α := x.elim (.error endOfFile) .ok

/-- The capture in a file. Only version 2.4 with Ethernet frames is known. -/
def ofFile (b : Bytes) (looped : Bool) : Except TransportError Capture := do
  if b.size = 0 then
    throw (invalid .invalidInput "memory map must have a non-zero length")
  let nanoseconds ← nanosecondsOf (← need (b.word32? 0))
  let major ← need (b.word16? 4)
  let minor ← need (b.word16? 6)
  let network ← need (b.word32? 20)
  if major ≠ 2 ∨ minor ≠ 4 then
    throw (invalid .invalidData s!"unsupported pcap version {major}.{minor}")
  if network ≠ 1 then throw (invalid .invalidData "expected LINKTYPE_ETHERNET")
  return { bytes := b, nanoseconds, looped, position := headerSize, payload := (0, 0) }

/-- Goes back to the first record. The last payload stays known. -/
def reset (c : Capture) : Capture := { c with position := headerSize }

/-- What stands at a position: nothing complete, a record without datagram, or a datagram. A
record that is cut short leaves the position behind its header. -/
inductive Reading where
  | stopped (position : Nat)
  | passed (position : Nat)
  | found (position : Nat) (fraction : UInt32) (payload : Nat × Nat) (sender : Address)

/-- The record at `i`. A frame that is incomplete on purpose is passed over. -/
def readRecord (b : Bytes) (i : Nat) : Reading :=
  match recordHeader? b i with
  | none => .stopped i
  | some h =>
    let start := i + recordHeaderSize
    let stop := start + h.stored.toNat
    if b.size < stop then .stopped start
    else if h.stored < h.sent then .passed stop
    else
      match datagram? (b.extract start stop) with
      | none => .passed stop
      | some d => .found stop h.fraction (start + d.start, d.length) d.sender

theorem recordHeader?_lt {b : Bytes} {i : Nat} {h : RecordHeader}
    (hh : recordHeader? b i = some h) : i < b.size := by
  rcases Nat.lt_or_ge i b.size with hi | hi
  · exact hi
  · simp [recordHeader?, Bytes.word32?, Array.getElem?_eq_none hi] at hh

theorem readRecord_passed {b : Bytes} {i j : Nat} (h : readRecord b i = .passed j) :
    i < j ∧ i < b.size := by
  cases hh : recordHeader? b i with
  | none => simp [readRecord, hh] at h
  | some r =>
    have := recordHeader?_lt hh
    simp only [readRecord, hh, recordHeaderSize] at h
    by_cases cut : b.size < i + 16 + r.stored.toNat
    · simp [cut] at h
    · simp only [cut, if_false] at h
      by_cases short : r.stored < r.sent
      · simp only [short, if_true, Reading.passed.injEq] at h
        omega
      · simp only [short, if_false] at h
        cases hd : datagram? (b.extract (i + 16) (i + 16 + r.stored.toNat)) with
        | none =>
          simp only [hd, Reading.passed.injEq] at h
          omega
        | some d => simp [hd] at h

/-- Records from `i` on, up to the first datagram or to where reading stops. -/
def seek (b : Bytes) (i : Nat) : Reading :=
  match _h : readRecord b i with
  | .passed j => seek b j
  | r => r
termination_by b.size - i
decreasing_by
  have := readRecord_passed _h
  omega

/-- The largest fraction that still fits 32 bits in nanoseconds. -/
def fitsNanoseconds (c : Capture) (fraction : UInt32) : Bool :=
  c.nanoseconds || fraction.toNat * 1000 < UInt32.size

/-- One reading from the position: an answer, or none at the end of the file. -/
def step (c : Capture) : Option Pull × Capture :=
  match seek c.bytes c.position with
  | .found position fraction payload sender =>
    let c := { c with position, payload }
    if c.fitsNanoseconds fraction then
      let (start, length) := payload
      (some (.packet sender (c.bytes.extract start (start + length))), c)
    else (some (.aborted (.fractionOverflow fraction)), c)
  | .passed position => (none, { c with position })
  | .stopped position => (none, { c with position })

/-- The next datagram. A looped capture that has given one starts again at its end. -/
def next (c : Capture) : Pull × Capture :=
  match c.step with
  | (some answer, c) => (answer, c)
  | (none, c) =>
    if c.looped ∧ c.payload.1 ≠ 0 then
      match c.reset.step with
      | (some answer, c) => (answer, c)
      | (none, c) => (.aborted .endlessRestart, c)
    else (.exhausted, c)

instance : PacketSource Capture := ⟨next⟩

end Capture

end Lidar
