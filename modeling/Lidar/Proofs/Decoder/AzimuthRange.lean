import Lidar.Proofs.Calibration.FiringOffsets
import Lidar.Proofs.Calibration.FiringOrder
import Lidar.Proofs.Decoder.Agreement
import Lidar.Proofs.Decoder.Made
import Lidar.Proofs.Wire.Draft

namespace Lidar

namespace FireTimes

variable {f : FireTimes} {blob : Bytes} {loop channel : Nat}

/-- All times of the two loops in which packets are fired are short. -/
def Short (f : FireTimes) : Prop :=
  ∀ loop < 2, ∀ channel, IsShort (f.get loop channel)

/-- The corrected azimuth fits 64 bits with all angles that can be loaded, for all lasers that they
cover, and for all that a packet says of loop, speed and block azimuth. -/
def SumsFit (f : FireTimes) : Prop :=
  ∀ angles c, AngleCorrection.parse angles QT128.channelLimit = .ok c →
    ∀ laser d, c.channels[laser]? = some d →
      ∀ (blockAzimuth : UInt16) (tail : QT128.Tail) (block : Nat),
        WordRange.int64.contains (10 * blockAzimuth.toNat + d.azimuth +
          f.azimuthOffset (tail.loopIndex block) laser tail.motorSpeed) = true

/-- No packet halts a decoder that uses the times, whatever was loaded and decoded before. -/
def NeverHalts (f : FireTimes) : Prop :=
  ∀ ops, let d := (Decoder.ofModel .qt128).after ops
    d.parts.fireTimes = some f → d.parts.fireTimeCorrection = some true →
      ∀ packet out fault, (d.decode packet out).1 ≠ .aborted fault

theorem isShort_zero : IsShort 0 := by
  rw [IsShort, show Binary.ofFloat32 0 = .finite false 0 (-149) by decide +kernel]
  show Binary.magnitude 0 (-149) ≤ longestTime
  rw [Binary.magnitude, longestTime]
  norm_num

/-- Beyond the sensor's lasers a table holds no times. -/
theorem channel_lt_of_long (parsed : parse blob = .ok f) (long : ¬IsShort (f.get loop channel)) :
    channel < 128 := by
  obtain ⟨version, size, columns, table, behind, loops, rows, -, -, rfl⟩ := parse_eq_ok_iff.1 parsed
  by_contra outside
  rw [get_ofRows_of_le (.inr (Nat.not_lt.1 outside))] at long
  exact long isShort_zero

/-- A degree back is enough to meet either end: from the least block azimuth with the least offset,
and from the greatest with the greatest. -/
theorem exists_outside (long : ¬IsShort (f.get loop channel)) :
    ∃ blockAzimuth : UInt16, WordRange.int64.contains
      (10 * blockAzimuth.toNat + -1000 + f.azimuthOffset loop channel 65535) = false := by
  rcases azimuthOffset_of_long long with least | greatest
  · refine ⟨0, ?_⟩
    rw [least]
    decide
  · refine ⟨65535, ?_⟩
    rw [greatest]
    decide

theorem short_of_contains (parsed : parse blob = .ok f)
    (fits : ∀ loop < 2, ∀ channel < 128, ∀ blockAzimuth : UInt16, WordRange.int64.contains
      (10 * blockAzimuth.toNat + -1000 + f.azimuthOffset loop channel 65535) = true) :
    f.Short := by
  intro loop fired channel
  by_contra long
  obtain ⟨blockAzimuth, outside⟩ := exists_outside long
  have inside := channel_lt_of_long parsed long
  exact Bool.false_ne_true (outside.symm.trans (fits loop fired channel inside blockAzimuth))

end FireTimes

namespace QT128

variable {f : FireTimes} {d : Direction}

theorem Tail.loopIndex_lt (t : Tail) (block : Nat) : t.loopIndex block < 2 :=
  Nat.mod_lt _ two_pos

/-- The farthest offset leaves room for ten times a word of 16 bits and a word of 32 bits. -/
theorem contains_sum (short : f.Short) (worded : d.Worded) (blockAzimuth : UInt16) {loop : Nat}
    (fired : loop < 2) (channel : Nat) (rpm : UInt16) :
    WordRange.int64.contains
      (10 * blockAzimuth.toNat + d.azimuth + f.azimuthOffset loop channel rpm) = true := by
  have small := blockAzimuth.toNat_lt
  have word : -2147483648 ≤ d.azimuth ∧ d.azimuth ≤ 2147483647 := of_decide_eq_true worded.azimuth
  have offset := FireTimes.azimuthOffset_within (short loop fired channel) rpm
  apply decide_eq_true
  simp only [WordRange.int64, FireTimes.farthestOffset] at offset ⊢
  omega

end QT128

namespace Draft

variable {m : Model} (d : Draft m)

theorem packetOf_bytes : m.format.packetOf d.bytes = d.packet :=
  (Format.eq_packetOf d.parse_bytes).symm

theorem header_bytes : Header.ofBytes d.bytes = d.header :=
  congrArg Packet.header d.packetOf_bytes

theorem contents?_packet : d.packet.contents? = some d.contents :=
  Packet.contents?_eq_some_iff.2 ⟨blocks?_packet, Model.readTail?_of_holds d.sections_held.2.1,
    sequence?_packet, imu?_packet⟩

/-- The end of a packet that is fired at the greatest speed. -/
def fastTail (modeFlag : UInt8) : QT128.Tail where
  reserved1 := .replicate _ 0
  reserved2 := .replicate _ 0
  modeFlag
  reserved3 := .replicate _ 0
  azimuthFlag := 0
  workingMode := 0
  returnMode := 0
  motorSpeed := 65535
  utc := .replicate _ 0
  timestamp := 0
  factoryInfo := 0

/-- A packet of one block with all lasers. -/
def fast (blockAzimuth : UInt16) (modeFlag : UInt8) : Draft .qt128 where
  header := {
    major := 3, minor := 2, statusInfo := 0, lasers := 128, blocks := 1, echoCount := 0
    distanceUnit := 4, echoNumber := 1, flags := ⟨0⟩ }
  major_eq := rfl
  minor_eq := rfl
  reserved := 0
  blocks := .replicate _ {
    azimuth := blockAzimuth, fineAzimuth := 0
    returns := .replicate _ ⟨⟨0, 0⟩, .replicate _ 0⟩ }
  bodyChecksum := .replicate _ 0
  functionSafety := .replicate _ 0
  tail := fastTail modeFlag
  sequence := 0
  imu := .replicate _ 0
  tailChecksum := .replicate _ 0
  signature := .replicate _ 0
  behind := #[]

theorem blocks_fast (blockAzimuth : UInt16) (modeFlag : UInt8) :
    (fast blockAzimuth modeFlag).contents.blocks =
      [⟨blockAzimuth, 0, List.replicate 128 ⟨0, 0⟩⟩] := by
  simp only [contents, fast, Vector.toList_replicate, DraftBlock.value, List.map_replicate]
  rfl

theorem exists_mode {loop : Nat} (fired : loop < 2) :
    ∃ modeFlag, (fastTail modeFlag).loopIndex 0 = loop := by
  interval_cases loop
  · exact ⟨1, by decide⟩
  · exact ⟨0, by decide⟩

end Draft

namespace Decoder

variable {f : FireTimes} {c : AngleCorrection} {blob angles : Bytes}

/-- A packet as it is written passes all tests of a decoder that covers its lasers. -/
theorem passed_of_draft (d : Draft .qt128) {room : Nat}
    (covered : d.header.laserCount ≤ c.channels.size) (roomy : d.header.capacity ≤ room) :
    Test.complaint? ((equipped c f).tests d.bytes room) = none := by
  have parsed : QT128.format.parse d.bytes = .ok (QT128.format.packetOf d.bytes) :=
    d.parse_bytes.trans (congrArg _ d.packetOf_bytes.symm)
  have needed : (equipped c f).neededChannels d.header ≤ c.channels.size := covered
  refine Test.complaint?_eq_none_iff.2 ?_
  simp only [tests, Test.ofDecoding, List.forall_mem_append, List.forall_mem_cons, d.header_bytes,
    decide_eq_true_eq]
  exact ⟨Format.parse_eq_ok_packetOf_iff.1 parsed, rfl, needed, roomy, List.forall_mem_nil _⟩

/-- If the packet of all lasers has a sum outside, decoding it ends there. -/
theorem aborted_of_fast {blockAzimuth : UInt16} {modeFlag : UInt8} {channel : Nat} {d : Direction}
    (all : c.channels.size = 128) (known : c.channels[channel]? = some d)
    (outside : WordRange.int64.contains (10 * blockAzimuth.toNat + d.azimuth +
      f.azimuthOffset ((Draft.fastTail modeFlag).loopIndex 0) channel 65535) = false) :
    ∃ fault, ((equipped c f).decode (Draft.fast blockAzimuth modeFlag).bytes (.blank 128)).1 =
      .aborted fault := by
  let draft := Draft.fast blockAzimuth modeFlag
  have inside : channel < 128 := all ▸ (Array.getElem?_eq_some_iff.1 known).1
  have roomy : draft.header.capacity ≤ (Buffers.blank 128).room := by
    rw [Buffers.room, Buffers.blank, Array.size_replicate, Array.size_replicate]
    rfl
  have passed := passed_of_draft (c := c) (f := f) draft (Nat.le_of_eq all.symm) roomy
  have sound : (equipped c f).Sound := trivial
  rcases decode_of_passed sound passed with ⟨fit, -⟩ | ⟨-, azimuth, -, aborted⟩
  · have read : (QT128.format.packetOf draft.bytes).contents? = some draft.contents :=
      (congrArg _ draft.packetOf_bytes).trans draft.contents?_packet
    have fits := fit c _ rfl read ⟨blockAzimuth, 0, List.replicate 128 ⟨0, 0⟩⟩ 0
      (by rw [Draft.blocks_fast]; exact List.mem_cons_self) channel
      (by rwa [List.length_replicate])
    have position (h : Header) (loop : Nat) : QT128.Tables.channel
        { calibration := some c, fireTimes := some f } h loop channel = channel := by
      rw [QT128.Tables.channel, QT128.Tables.configFor, ite_self]
      rfl
    rw [QT128.Tables.correctedAzimuth] at fits
    rw [position, known] at fits
    exact absurd (outside.symm.trans fits) Bool.false_ne_true
  · exact ⟨_, aborted⟩

/-- Short times keep all azimuths of a packet inside, whichever channels a channel table puts in the
place of others. -/
theorem azimuthsFit_of_short {d : Decoder} (short : f.Short)
    (worded : ∀ c, d.parts.calibration = some (.angles c) → c.Worded)
    (timed : d.parts.fireTimes = some f) (on : d.parts.fireTimeCorrection = some true)
    (packet : Bytes) : d.AzimuthsFit packet := by
  cases d with
  | p128 s | at128 s => trivial
  | qt128 s =>
    intro c contents loaded read b i listed j hj
    have angles : c.Worded := worded c (congrArg (Option.map Calibration.angles) loaded)
    have active : s.tables.activeFireTimes = some f := by
      rw [QT128.Tables.activeFireTimes, Option.some.inj on]
      exact timed
    have fired := contents.tail.loopIndex_lt i
    rw [QT128.Tables.correctedAzimuth, QT128.Tables.fireOffset, active]
    cases known : c.channels[s.tables.channel (.ofBytes packet) (contents.tail.loopIndex i) j]? with
    | none => exact QT128.contains_sum (d := ⟨0, 0⟩) short ⟨rfl, rfl⟩ _ fired _ _
    | some d => exact QT128.contains_sum short (angles d (Array.mem_of_getElem? known)) _ fired _ _

theorem neverHalts_of_short (short : f.Short) : f.NeverHalts := by
  intro ops d timed on packet out fault aborted
  have sound : d.Sound := sound_after .qt128 ops
  have fit : d.AzimuthsFit packet :=
    azimuthsFit_of_short short (fun c => worded_after .qt128 ops) timed on packet
  cases decided : Test.complaint? (d.tests packet out.room) with
  | some reason =>
    rw [decode_of_refused decided] at aborted
    cases aborted
  | none =>
    obtain ⟨report, accepted⟩ := exists_accepted sound decided fit
    cases aborted.symm.trans accepted

/-- All lasers a degree behind their block. -/
def lagging : AngleCorrection := ⟨Array.replicate 128 ⟨0, -1000⟩⟩

def laggingLasers : Bytes :=
  .ofText ((List.range 128).flatMap fun k =>
    Text.numeral (k + 1) ++ [',', '0', ',', '-', '1', '\n'])

theorem parse_laggingLasers :
    AngleCorrection.parse laggingLasers QT128.channelLimit = .ok lagging := by
  rw [AngleCorrection.parse, laggingLasers, Text.ofBlob_ofText]
  decide +kernel

theorem size_lagging : lagging.channels.size = 128 := Array.size_replicate

theorem getElem?_lagging {channel : Nat} (inside : channel < 128) :
    lagging.channels[channel]? = some ⟨0, -1000⟩ := by
  rw [lagging, Array.getElem?_replicate, if_pos inside]

theorem short_of_neverHalts (parsed : FireTimes.parse blob = .ok f) (never : f.NeverHalts) :
    f.Short := by
  refine FireTimes.short_of_contains parsed ?_
  intro loop fired channel inside blockAzimuth
  by_contra outside
  obtain ⟨modeFlag, rfl⟩ := Draft.exists_mode fired
  obtain ⟨fault, aborted⟩ := aborted_of_fast size_lagging (getElem?_lagging inside)
    (Bool.eq_false_of_not_eq_true outside)
  rw [← after_loads parse_laggingLasers parsed] at aborted
  refine never _ ?_ ?_ _ _ _ aborted
  · rw [after_loads parse_laggingLasers parsed]
    rfl
  · rw [after_loads parse_laggingLasers parsed]
    rfl

theorem short_of_sumsFit (parsed : FireTimes.parse blob = .ok f) (sums : f.SumsFit) :
    f.Short := by
  refine FireTimes.short_of_contains parsed ?_
  intro loop fired channel inside blockAzimuth
  obtain ⟨modeFlag, rfl⟩ := Draft.exists_mode fired
  exact sums _ _ parse_laggingLasers channel _ (getElem?_lagging inside) blockAzimuth
    (Draft.fastTail modeFlag) 0

/-- The sums on the way to a corrected azimuth always fit 64 bits. The last, with the offset of the
firing time, fits for all angles and packets if and only if the times of both loops are short, and
exactly then no packet halts a decoder. -/
theorem sums_fit_iff_short (parsed : FireTimes.parse blob = .ok f) :
    (∀ angles c, AngleCorrection.parse angles QT128.channelLimit = .ok c →
      ∀ (laser : Nat) d, c.channels[laser]? = some d → ∀ blockAzimuth : UInt16,
        WordRange.int64.contains (10 * blockAzimuth.toNat) = true ∧
          WordRange.int64.contains (10 * blockAzimuth.toNat + d.azimuth) = true) ∧
    (f.SumsFit ↔ f.Short) ∧ (f.NeverHalts ↔ f.Short) := by
  refine ⟨?_, ⟨short_of_sumsFit parsed, ?_⟩, short_of_neverHalts parsed, neverHalts_of_short⟩
  · intro angles c read laser d known blockAzimuth
    have worded : d.Worded :=
      AngleCorrection.worded_of_parse read d (Array.mem_of_getElem? known)
    have scaled := QT128.Tables.contains_azimuth (d := ⟨0, 0⟩) ⟨rfl, rfl⟩ blockAzimuth
    rw [Int.add_zero] at scaled
    exact ⟨scaled, QT128.Tables.contains_azimuth worded blockAzimuth⟩
  · intro short angles c read laser d known blockAzimuth tail block
    exact QT128.contains_sum short
      (AngleCorrection.worded_of_parse read d (Array.mem_of_getElem? known)) _
      (tail.loopIndex_lt block) _ _

theorem sums_fit_iff_short_endlessTimes :
    ∃ f, FireTimes.parse endlessTimes = .ok f ∧ ¬f.Short ∧ ¬f.SumsFit ∧ ¬f.NeverHalts := by
  obtain ⟨f, parsed, offset⟩ := parse_endlessTimes
  obtain ⟨-, sums, halts⟩ := sums_fit_iff_short parsed
  have long : ¬f.Short := by
    intro short
    have bound := (FireTimes.azimuthOffset_within (short 0 two_pos 0) 257).2
    rw [offset, FireTimes.farthestOffset] at bound
    omega
  exact ⟨f, parsed, long, fun fit => long (sums.1 fit), fun never => long (halts.1 never)⟩

/-- The offset of a time without end is the greatest word, and the block azimuth is added to it. -/
theorem halts_with_endlessTimes :
    ∃ f, FireTimes.parse endlessTimes = .ok f ∧
      AngleCorrection.parse oneLaser QT128.channelLimit = .ok ⟨#[⟨0, 0⟩]⟩ ∧
      WordRange.int64.contains (10 * 257 + 0 + f.azimuthOffset 0 0 257) = false ∧
      let d := (ofModel .qt128).after [.loadCalibration oneLaser, .loadFireTimes endlessTimes]
      ∃ fault, (d.decode onesPacket (.blank 1)).1 = .aborted fault := by
  obtain ⟨f, parsed, offset⟩ := parse_endlessTimes
  have sound : (timed f).Sound := trivial
  have passed : Test.complaint? ((timed f).tests onesPacket (Buffers.blank 1).room) = none := rfl
  refine ⟨f, parsed, parse_oneLaser, by rw [offset]; rfl, ?_⟩
  intro d
  have reached : d = timed f := after_loads parse_oneLaser parsed
  rw [reached]
  rcases decode_of_passed sound passed with ⟨fit, -⟩ | ⟨-, azimuth, -, aborted⟩
  · exact absurd fit (not_azimuthsFit_timed offset)
  · exact ⟨_, aborted⟩

end Decoder

end Lidar
