import Lidar.Proofs.Wire.Sections

namespace Lidar

namespace Bytes

/-- Pieces one behind the other. -/
def joined {α : Type} (write : α → Bytes) : List α → Bytes
  | [] => #[]
  | x :: xs => write x ++ joined write xs

section Joined

variable {α : Type} {write : α → Bytes} {n : Nat}

theorem size_joined (size : ∀ x, (write x).size = n) (xs : List α) :
    (joined write xs).size = xs.length * n := by
  induction xs with
  | nil => simp [joined]
  | cons x xs ih =>
    rw [joined, Array.size_append, size, ih, List.length_cons, Nat.succ_mul, Nat.add_comm]

/-- Pieces of one size stand at multiples of it. -/
theorem Holds.joined {b : Bytes} (size : ∀ x, (write x).size = n) {xs : List α} {i : Nat}
    (h : b.Holds i (Bytes.joined write xs)) {k : Nat} (hk : k < xs.length) :
    b.Holds (i + k * n) (write xs[k]) := by
  induction xs generalizing i k with
  | nil => cases hk
  | cons x xs ih =>
    obtain ⟨first, rest⟩ := holds_append.1 h
    cases k with
    | zero => simpa using first
    | succ k =>
      rw [size] at rest
      have next := ih rest (Nat.lt_of_succ_lt_succ hk)
      rw [Nat.add_assoc, Nat.add_comm n, ← Nat.succ_mul] at next
      exact next

end Joined

/-- A section that is written only if it is announced. -/
def onlyIf (present : Bool) (b : Bytes) : Bytes := if present then b else #[]

theorem size_onlyIf (present : Bool) (b : Bytes) :
    (onlyIf present b).size = Section.sizeIf present b.size := by
  cases present <;> rfl

theorem Holds.of_onlyIf {present : Bool} {b s : Bytes} {i j : Nat}
    (h : b.Holds i (onlyIf present s)) (hj : j ∈ if present then some i else none) :
    b.Holds j s := by
  cases present with
  | false => cases hj
  | true =>
    obtain rfl := Option.some.inj hj
    exact h

end Bytes

/-- The first twelve bytes; nobody reads the sixth. -/
def Header.bytes (h : Header) (reserved : UInt8) : Bytes :=
  #[0xEE, 0xFF, h.major, h.minor, h.statusInfo, reserved, h.lasers, h.blocks, h.echoCount,
    h.distanceUnit, h.echoNumber, h.flags.bits]

theorem Header.parse_of_holds {b : Bytes} {h : Header} {reserved : UInt8}
    (stands : b.Holds 0 (h.bytes reserved)) : Header.parse b = .ok h := by
  have byte (k : Nat) (hk : k < 12) : b.byte? k = (h.bytes reserved)[k]? := by
    have at_k := stands k hk
    rwa [Nat.zero_add] at at_k
  have fields : fields? b = some h := by
    simp only [fields?, byte 2 (by decide), byte 3 (by decide), byte 4 (by decide),
      byte 6 (by decide), byte 7 (by decide), byte 8 (by decide), byte 9 (by decide),
      byte 10 (by decide), byte 11 (by decide)]
    rfl
  have first : b.byte? 0 = some 0xEE := byte 0 (by decide)
  have second : b.byte? 1 = some 0xFF := byte 1 (by decide)
  rw [parse, first, second]
  simp [fields]

def P128.Tail.bytes (t : P128.Tail) : Bytes :=
  t.reserved1.toArray ++ t.reserved2.toArray ++ t.reserved3.toArray ++
    Bytes.ofWord16 t.azimuthFlag ++ #[t.runningMode] ++ #[t.returnMode] ++
    Bytes.ofWord16 t.motorSpeed ++ t.utc.toArray ++ Bytes.ofWord32 t.timestamp ++ #[t.factoryInfo]

theorem P128.Tail.read?_of_holds {t : P128.Tail} {b : Bytes} {i : Nat} (h : b.Holds i t.bytes) :
    P128.Tail.read? b i = some t := by
  simp only [P128.Tail.bytes, Bytes.holds_append, Array.size_append, Vector.size_toArray,
    Bytes.size_ofWord16, Bytes.size_ofWord32, List.size_toArray, List.length_singleton,
    Nat.reduceAdd, and_assoc] at h
  obtain ⟨reserved1, reserved2, reserved3, azimuthFlag, runningMode, returnMode, motorSpeed, utc,
    timestamp, factoryInfo⟩ := h
  simp [P128.Tail.read?, reserved1.vector?, reserved2.vector?, reserved3.vector?,
    azimuthFlag.word16?, Bytes.byte?, runningMode.byte?, returnMode.byte?, motorSpeed.word16?,
    utc.vector?, timestamp.word32?, factoryInfo.byte?]

def QT128.Tail.bytes (t : QT128.Tail) : Bytes :=
  t.reserved1.toArray ++ t.reserved2.toArray ++ #[t.modeFlag] ++ t.reserved3.toArray ++
    Bytes.ofWord16 t.azimuthFlag ++ #[t.workingMode] ++ #[t.returnMode] ++
    Bytes.ofWord16 t.motorSpeed ++ t.utc.toArray ++ Bytes.ofWord32 t.timestamp ++ #[t.factoryInfo]

theorem QT128.Tail.read?_of_holds {t : QT128.Tail} {b : Bytes} {i : Nat} (h : b.Holds i t.bytes) :
    QT128.Tail.read? b i = some t := by
  simp only [QT128.Tail.bytes, Bytes.holds_append, Array.size_append, Vector.size_toArray,
    Bytes.size_ofWord16, Bytes.size_ofWord32, List.size_toArray, List.length_singleton,
    Nat.reduceAdd, and_assoc] at h
  obtain ⟨reserved1, reserved2, modeFlag, reserved3, azimuthFlag, workingMode, returnMode,
    motorSpeed, utc, timestamp, factoryInfo⟩ := h
  simp [QT128.Tail.read?, reserved1.vector?, reserved2.vector?, Bytes.byte?, modeFlag.byte?,
    reserved3.vector?, azimuthFlag.word16?, workingMode.byte?, returnMode.byte?,
    motorSpeed.word16?, utc.vector?, timestamp.word32?, factoryInfo.byte?]

def AT128.Tail.bytes (t : AT128.Tail) : Bytes :=
  t.reserved1.toArray ++ t.reserved2.toArray ++ #[t.shutdownFlag] ++ t.reserved3.toArray ++
    t.reserved4.toArray ++ Bytes.ofWord16 t.motorSpeed.toUInt16 ++ Bytes.ofWord32 t.timestamp ++
    #[t.returnMode] ++ #[t.factoryInfo] ++ t.utc.toArray

theorem AT128.Tail.read?_of_holds {t : AT128.Tail} {b : Bytes} {i : Nat} (h : b.Holds i t.bytes) :
    AT128.Tail.read? b i = some t := by
  simp only [AT128.Tail.bytes, Bytes.holds_append, Array.size_append, Vector.size_toArray,
    Bytes.size_ofWord16, Bytes.size_ofWord32, List.size_toArray, List.length_singleton,
    Nat.reduceAdd, and_assoc] at h
  obtain ⟨reserved1, reserved2, shutdownFlag, reserved3, reserved4, motorSpeed, timestamp,
    returnMode, factoryInfo, utc⟩ := h
  simp [AT128.Tail.read?, reserved1.vector?, reserved2.vector?, Bytes.byte?, shutdownFlag.byte?,
    reserved3.vector?, reserved4.vector?, motorSpeed.int16?, timestamp.word32?, returnMode.byte?,
    factoryInfo.byte?, utc.vector?]

namespace Model

def tailBytes : (m : Model) → m.Tail → Bytes
  | p128 => P128.Tail.bytes
  | qt128 => QT128.Tail.bytes
  | at128 => AT128.Tail.bytes

theorem size_tailBytes (m : Model) (t : m.Tail) : (m.tailBytes t).size = m.format.tailSize := by
  cases m with
  | p128 => simp [tailBytes, P128.Tail.bytes, format, P128.format]
  | qt128 => simp [tailBytes, QT128.Tail.bytes, format, QT128.format]
  | at128 => simp [tailBytes, AT128.Tail.bytes, format, AT128.format]

theorem readTail?_of_holds {m : Model} {t : m.Tail} {b : Bytes} {i : Nat}
    (h : b.Holds i (m.tailBytes t)) : m.format.readTail? b i = some t := by
  cases m with
  | p128 => exact P128.Tail.read?_of_holds h
  | qt128 => exact QT128.Tail.read?_of_holds h
  | at128 => exact AT128.Tail.read?_of_holds h

end Model

/-- A return to be written, with the bytes behind it that nobody reads. -/
structure DraftReturn (spare : Nat) where
  value : WireReturn
  spare : Vector UInt8 spare

def DraftReturn.bytes {spare : Nat} (r : DraftReturn spare) : Bytes :=
  Bytes.ofWord16 r.value.distance ++ #[r.value.reflectivity] ++ r.spare.toArray

theorem DraftReturn.size_bytes {spare : Nat} (r : DraftReturn spare) :
    r.bytes.size = 3 + spare := by
  simp [bytes]

structure DraftBlock (lasers spare : Nat) where
  azimuth : UInt16
  fineAzimuth : UInt8
  returns : Vector (DraftReturn spare) lasers

namespace DraftBlock

variable {lasers spare : Nat} (fine : Bool) (b : DraftBlock lasers spare)

def bytes : Bytes :=
  Bytes.ofWord16 b.azimuth ++ Bytes.onlyIf fine #[b.fineAzimuth] ++
    Bytes.joined DraftReturn.bytes b.returns.toList

/-- The block without what is not written or not read. -/
def value : Block where
  azimuth := b.azimuth
  fineAzimuth := if fine then b.fineAzimuth else 0
  returns := b.returns.toList.map (·.value)

theorem size_bytes : (b.bytes fine).size = (if fine then 3 else 2) + lasers * (3 + spare) := by
  rw [bytes, Array.size_append, Array.size_append, Bytes.size_joined DraftReturn.size_bytes,
    Bytes.size_onlyIf, Vector.length_toList]
  cases fine <;> rfl

end DraftBlock

/-- A packet to be written: every field that is read, and every byte that is not. -/
structure Draft (m : Model) where
  header : Header
  major_eq : header.major = m.format.major
  minor_eq : header.minor = m.format.minor
  reserved : UInt8
  blocks : Vector (DraftBlock header.laserCount (m.format.returnSize header.flags - 3))
    header.blockCount
  bodyChecksum : Vector UInt8 Section.bodyChecksum
  functionSafety : Vector UInt8 Section.functionSafety
  tail : m.Tail
  sequence : UInt32
  imu : Vector UInt8 Section.imu
  tailChecksum : Vector UInt8 Section.tailChecksum
  signature : Vector UInt8 Section.signature
  behind : Bytes

namespace Draft

variable {m : Model} (d : Draft m)

def body : Bytes :=
  d.header.bytes d.reserved ++
    Bytes.joined (DraftBlock.bytes m.format.fineAzimuth) d.blocks.toList

/-- The packet in the order of its sections. -/
def bytes : Bytes :=
  d.body ++ d.bodyChecksum.toArray ++
    Bytes.onlyIf (m.format.functionSafety && d.header.flags.functionSafety)
      d.functionSafety.toArray ++
    m.tailBytes d.tail ++
    Bytes.onlyIf d.header.flags.sequence (Bytes.ofWord32 d.sequence) ++
    Bytes.onlyIf (m.format.imu && d.header.flags.imu) d.imu.toArray ++
    d.tailChecksum.toArray ++
    Bytes.onlyIf d.header.flags.cyberSecurity d.signature.toArray ++
    d.behind

def contents : Contents m.Tail where
  blocks := d.blocks.toList.map (DraftBlock.value m.format.fineAzimuth)
  tail := d.tail
  sequence := if d.header.flags.sequence then some d.sequence else none
  imu := if m.format.imu && d.header.flags.imu then some d.imu else none

def packet : Packet m.Tail := { bytes := d.bytes, header := d.header, format := m.format }

theorem returnSize_eq : 3 + (m.format.returnSize d.header.flags - 3) = d.packet.layout.returnSize :=
  Nat.add_sub_cancel' (m.format_lawful.returnSize_ge d.header.flags)

theorem size_block (b : DraftBlock d.header.laserCount (m.format.returnSize d.header.flags - 3)) :
    (b.bytes m.format.fineAzimuth).size = d.packet.layout.blockSize := by
  rw [DraftBlock.size_bytes, returnSize_eq]
  rfl

theorem size_body : d.body.size = d.packet.layout.blockStart d.packet.layout.blocks := by
  rw [body, Array.size_append, Bytes.size_joined d.size_block, Vector.length_toList]
  rfl

theorem size_bytes : d.bytes.size = d.packet.layout.size + d.behind.size := by
  simp only [bytes, Array.size_append, Vector.size_toArray, Bytes.size_onlyIf,
    Bytes.size_ofWord32, size_body, m.size_tailBytes]
  rfl

/-- Each section stands where the layout of the header says. -/
theorem sections_held :
    d.bytes.Holds 0 d.body ∧ d.bytes.Holds d.packet.layout.tail (m.tailBytes d.tail) ∧
      (∀ i ∈ d.packet.layout.sequence, d.bytes.Holds i (Bytes.ofWord32 d.sequence)) ∧
      ∀ i ∈ d.packet.layout.imu, d.bytes.Holds i d.imu.toArray := by
  have stands := Bytes.holds_self d.bytes
  nth_rewrite 2 [bytes] at stands
  simp only [Bytes.holds_append, Array.size_append, Vector.size_toArray, Bytes.size_onlyIf,
    Bytes.size_ofWord32, size_body, m.size_tailBytes, and_assoc, Nat.zero_add] at stands
  obtain ⟨body, -, -, tail, sequence, imu, -, -, -⟩ := stands
  exact ⟨body, tail, fun i hi => sequence.of_onlyIf hi, fun i hi => imu.of_onlyIf hi⟩

theorem parse_bytes : m.format.parse d.bytes = .ok d.packet := by
  obtain ⟨header, -⟩ := Bytes.holds_append.1 d.sections_held.1
  have complete : d.packet.Complete := by
    have size := d.size_bytes
    show d.packet.layout.size ≤ d.bytes.size
    omega
  exact Format.parse_eq_ok_iff.2
    ⟨Header.parse_of_holds header, rfl, rfl, d.major_eq, d.minor_eq, complete⟩

variable {d} {i : Nat}
  {b : DraftBlock d.header.laserCount (m.format.returnSize d.header.flags - 3)}

theorem return?_packet
    (h : d.bytes.Holds (d.packet.layout.blockStart i) (b.bytes m.format.fineAzimuth)) {j : Nat}
    (hj : j < b.returns.toList.length) :
    d.packet.return? i j = some (b.returns.toList[j]).value := by
  have front : (Bytes.ofWord16 b.azimuth ++
      Bytes.onlyIf m.format.fineAzimuth #[b.fineAzimuth]).size = d.packet.layout.azimuthSize := by
    rw [Array.size_append, Bytes.size_onlyIf]
    show _ = if m.format.fineAzimuth then 3 else 2
    cases m.format.fineAzimuth <;> rfl
  have returns := ((Bytes.holds_append.1 h).2).joined DraftReturn.size_bytes hj
  rw [front, returnSize_eq] at returns
  change d.bytes.Holds (d.packet.layout.returnStart i j) _ at returns
  simp only [DraftReturn.bytes, Bytes.holds_append, Array.size_append, Bytes.size_ofWord16,
    and_assoc] at returns
  obtain ⟨distance, reflectivity, -⟩ := returns
  have distance : d.packet.bytes.word16? (d.packet.layout.returnStart i j) = _ := distance.word16?
  have reflectivity : d.packet.bytes.byte? (d.packet.layout.returnStart i j + 2) = _ :=
    reflectivity.byte?
  rw [Packet.return?, distance, reflectivity]
  rfl

theorem block?_packet
    (h : d.bytes.Holds (d.packet.layout.blockStart i) (b.bytes m.format.fineAzimuth)) :
    d.packet.block? i = some (b.value m.format.fineAzimuth) := by
  obtain ⟨front, -⟩ := Bytes.holds_append.1 h
  obtain ⟨azimuth, fine⟩ := Bytes.holds_append.1 front
  refine Packet.block?_eq_some_iff.2 ⟨azimuth.word16?, ?_, ?_⟩
  · show (if m.format.fineAzimuth then _ else _) = some (if m.format.fineAzimuth then _ else _)
    split
    · next present => exact (fine.of_onlyIf (by rw [if_pos present]; rfl)).byte?
    · rfl
  · refine mapM_range_eq_some_iff.2 ⟨?_, fun j hj => ?_⟩
    · simp only [DraftBlock.value, List.length_map, Vector.length_toList]
      rfl
    · simp only [DraftBlock.value, List.length_map] at hj
      rw [return?_packet h hj]
      simp only [DraftBlock.value, List.getElem_map]

theorem blocks?_packet : d.packet.blocks? = some d.contents.blocks := by
  obtain ⟨-, blocks⟩ := Bytes.holds_append.1 d.sections_held.1
  refine mapM_range_eq_some_iff.2 ⟨?_, fun i hi => ?_⟩
  · simp only [contents, List.length_map, Vector.length_toList]
    rfl
  · simp only [contents, List.length_map] at hi
    simp only [contents, List.getElem_map]
    apply block?_packet
    have block := blocks.joined d.size_block hi
    rw [Nat.zero_add] at block
    exact block

theorem sequence?_packet :
    d.packet.sequence? = some (if d.header.flags.sequence then some d.sequence else none) := by
  have held := d.sections_held.2.2.1
  have place : d.packet.layout.sequence = if d.header.flags.sequence then some _ else none := rfl
  rw [place] at held
  rw [Packet.sequence?, place]
  cases present : d.header.flags.sequence with
  | false => rfl
  | true => exact congrArg (Option.map some) (held _ (by rw [present]; rfl)).word32?

theorem imu?_packet :
    d.packet.imu? = some (if m.format.imu && d.header.flags.imu then some d.imu else none) := by
  have held := d.sections_held.2.2.2
  have place : d.packet.layout.imu = if m.format.imu && d.header.flags.imu then some _ else none :=
    rfl
  rw [place] at held
  rw [Packet.imu?, place]
  cases present : m.format.imu && d.header.flags.imu with
  | false => rfl
  | true =>
    exact congrArg (Option.map some)
      ((held _ (by rw [present]; rfl)).vector? (show 0 < Section.imu by decide))

end Draft

/-- What is written reads back: the packet of any header, any blocks and any tail parses, and gives
back header, blocks, tail and the optional sections that its flags announce, whatever the bytes
say that nobody reads and whatever follows. -/
theorem written_reads_back (m : Model) (d : Draft m) :
    ∃ p, m.format.parse d.bytes = .ok p ∧ p.header = d.header ∧
      p.blocks? = some (d.blocks.toList.map (DraftBlock.value m.format.fineAzimuth)) ∧
      p.tail? = some d.tail ∧
      p.sequence? = some (if d.header.flags.sequence then some d.sequence else none) ∧
      p.imu? = some (if m.format.imu && d.header.flags.imu then some d.imu else none) :=
  ⟨d.packet, d.parse_bytes, rfl, Draft.blocks?_packet,
    Model.readTail?_of_holds d.sections_held.2.1, Draft.sequence?_packet, Draft.imu?_packet⟩

end Lidar
