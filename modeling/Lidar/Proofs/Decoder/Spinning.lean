import Lidar.Proofs.Calibration.AngleWords
import Lidar.Proofs.Decoder.Alike
import Lidar.Proofs.Decoder.Parts

namespace Lidar

/-- Headers that declare the same blocks in the same units. -/
structure Header.SameGeometry (h h' : Header) : Prop where
  lasers : h.lasers = h'.lasers
  blocks : h.blocks = h'.blocks
  distanceUnit : h.distanceUnit = h'.distanceUnit
  confidence : h.flags.confidence = h'.flags.confidence

/-- Layouts that place the blocks and returns alike. -/
structure Layout.SameBody (l l' : Layout) : Prop where
  blocks : l.blocks = l'.blocks
  lasers : l.lasers = l'.lasers
  azimuthSize : l.azimuthSize = l'.azimuthSize
  returnSize : l.returnSize = l'.returnSize

theorem Layout.SameBody.sameCut {l l' : Layout} (h : l.SameBody l') : l.SameCut l' :=
  ⟨h.lasers, h.azimuthSize, h.returnSize⟩

namespace Packet

/-- The block bytes are the same, and they are cut alike. -/
structure SameBlocks (p : Packet P128.Tail) (q : Packet QT128.Tail) : Prop where
  geometry : p.header.SameGeometry q.header
  bytes : p.blockArea.Agree p.bytes q.bytes

theorem SameBlocks.blocks? {p : Packet P128.Tail} {q : Packet QT128.Tail} (h : SameBlocks p q)
    (hp : p.format = P128.format) (hq : q.format = QT128.format) : p.blocks? = q.blocks? := by
  have body : p.layout.SameBody q.layout := by
    rw [layout, layout, hp, hq]
    refine ⟨?_, ?_, rfl, ?_⟩
    · exact congrArg UInt8.toNat h.geometry.blocks
    · exact congrArg UInt8.toNat h.geometry.lasers
    · show (if _ then 4 else 3) = if _ then 4 else 3
      rw [h.geometry.confidence]
  have lawful : p.format.Lawful := by
    rw [hp]
    exact P128.format_lawful
  have fine : p.format.fineAzimuth = q.format.fineAzimuth := by rw [hp, hq]; rfl
  exact blocks?_of_sameCut lawful fine body.sameCut body.blocks h.bytes

end Packet

namespace Spinning

/-- A block is aimed at by its azimuth and the angles of its channels. -/
def aim (c : AngleCorrection) (b : Block) : Option Aim :=
  some { azimuth := b.azimuth.toNat, direction := Spinning.direction c b.azimuth }

/-- A correction that does no more to the packets of a header than the angles do. -/
structure Plain {Tail : Type} (c : AngleCorrection) (h : Header) (k : Correction Tail) : Prop where
  elevations : k.elevations = c.channels.map (·.elevation)
  needed : k.needed h = h.laserCount
  aim : h.laserCount ≤ c.channels.size → ∀ tail i b, b.returns.length = h.laserCount →
    Aim.Alike b.returns.length (k.aim h tail i b) (Spinning.aim c b)

/-- Every return has a direction if the calibration covers the declared lasers. -/
theorem exists_run (angles : AngleTable) (scale : Float32) {c : AngleCorrection}
    {blocks : List (Block × Nat)}
    (covered : ∀ b i, (b, i) ∈ blocks → b.returns.length ≤ c.channels.size) (splitter : Splitter) :
    ∃ scan, Scan.run angles scale (fun _ => aim c) blocks splitter = .ok scan := by
  cases walked : Scan.run angles scale (fun _ => aim c) blocks splitter with
  | ok scan => exact ⟨scan, rfl⟩
  | error fault =>
    obtain ⟨b, i, listed, a, aimed, j, hj, failed⟩ := Scan.run_error walked
    obtain rfl := Option.some.inj aimed
    change direction c b.azimuth j = .error fault at failed
    rw [direction_eq (Nat.lt_of_lt_of_le hj (covered b i listed))] at failed
    cases failed

end Spinning

namespace Family

variable {Tail Tables : Type} {f : Family Tail Tables} {s : State Tables} {packet : Bytes}
  {out : Buffers} {p : Packet Tail} {c : AngleCorrection} {k : Correction Tail}

theorem admission_of_plain (parsed : f.format.parse packet = .ok p)
    (loaded : f.correction? s.tables = some k) (plain : Spinning.Plain c p.header k)
    (roomy : p.header.capacity ≤ out.room) :
    f.admission s packet out.room =
      if c.channels.size < p.header.laserCount then
        .error (.channelMismatch p.header.laserCount c.channels.size)
      else .ok (p, k) := by
  obtain rfl := Format.eq_packetOf parsed
  have size : k.elevations.size = c.channels.size := by rw [plain.elevations, Array.size_map]
  have needed : k.needed (.ofBytes packet) = (Header.ofBytes packet).laserCount := plain.needed
  have fits : ¬out.room < (Header.ofBytes packet).capacity := Nat.not_lt.2 roomy
  rw [admission_of_parsed parsed loaded, needed, size, if_neg fits]
  rfl

theorem decode_of_uncovered (parsed : f.format.parse packet = .ok p)
    (loaded : f.correction? s.tables = some k) (plain : Spinning.Plain c p.header k)
    (roomy : p.header.capacity ≤ out.room) (uncovered : c.channels.size < p.header.laserCount) :
    f.decode s packet out =
      (.rejected (.channelMismatch p.header.laserCount c.channels.size), s, out) := by
  rw [decode, admission_of_plain parsed loaded plain roomy, if_pos uncovered]

/-- A covered packet is decoded by the common walk over its blocks. -/
theorem decode_of_covered (lawful : f.format.Lawful) (parsed : f.format.parse packet = .ok p)
    (loaded : f.correction? s.tables = some k) (plain : Spinning.Plain c p.header k)
    (roomy : p.header.capacity ≤ out.room) (covered : p.header.laserCount ≤ c.channels.size) :
    ∃ contents scan, p.blocks? = some contents.blocks ∧
      Scan.run f.angles p.header.distanceScale (fun _ => Spinning.aim c) contents.blocks.zipIdx
        s.splitter = .ok scan ∧
      f.decode s packet out = (.accepted (f.report p.header k contents scan),
        { s with splitter := scan.splitter, motion := f.motion contents.tail },
        out.overwrite scan.points) := by
  obtain ⟨-, -, format, -, -, complete⟩ := Format.parse_eq_ok_iff.1 parsed
  obtain ⟨contents, read⟩ := Option.isSome_iff_exists.1
    (complete.contents?_isSome (by rw [format]; exact lawful))
  obtain ⟨blocks, -⟩ := Packet.contents?_eq_some_iff.1 read
  have returns (b : Block) (i : Nat) (listed : (b, i) ∈ contents.blocks.zipIdx) :
      b.returns.length = p.header.laserCount :=
    (Packet.counts_of_blocks? blocks).2 b (List.fst_mem_of_mem_zipIdx listed)
  obtain ⟨scan, walked⟩ := Spinning.exists_run f.angles p.header.distanceScale
    (fun b i listed => Nat.le_trans (Nat.le_of_eq (returns b i listed)) covered) s.splitter
  refine ⟨contents, scan, blocks, walked, ?_⟩
  have same : Scan.run f.angles p.header.distanceScale (k.aim p.header contents.tail)
      contents.blocks.zipIdx s.splitter = .ok scan := by
    rw [← walked]
    apply Scan.run_congr
    intro b i listed
    exact plain.aim covered contents.tail i b (returns b i listed)
  rw [decode, admission_of_plain parsed loaded plain roomy, if_neg (Nat.not_lt.2 covered)]
  simp only [Family.scan, read, Fault.unless, Option.elim, bind, Except.bind, same, pure,
    Except.pure]

end Family

theorem P128.plain_correction (c : AngleCorrection) (h : Header) :
    Spinning.Plain c h (P128.correction c) where
  elevations := rfl
  needed := rfl
  aim _ _ _ _ _ := ⟨rfl, fun _ _ => rfl⟩

namespace QT128.Tables

/-- No channel table is used for a packet, and no firing times are. -/
structure Unused (t : Tables) (h : Header) : Prop where
  config : t.config = none ∨ h.flags.selfDefine = false
  fireTimes : t.fireTimes = none ∨ t.fireTimeCorrection = false

variable {t : Tables} {h : Header} {c : AngleCorrection}

theorem Unused.configFor (unused : t.Unused h) : t.configFor h = none := by
  rw [Tables.configFor]
  rcases unused.config with absent | plain
  · rw [absent, ite_self]
  · rw [plain]
    rfl

theorem Unused.activeFireTimes (unused : t.Unused h) : t.activeFireTimes = none := by
  rw [Tables.activeFireTimes]
  rcases unused.fireTimes with absent | off
  · rw [absent, ite_self]
  · rw [off]
    rfl

theorem Unused.channel (unused : t.Unused h) (loop position : Nat) :
    t.channel h loop position = position := by
  rw [Tables.channel, unused.configFor]
  rfl

/-- Ten times a word of 16 bits and a word of 32 bits stay far inside 64 bits. -/
theorem contains_azimuth {d : Direction} (worded : d.Worded) (blockAzimuth : UInt16) :
    WordRange.int64.contains (Spinning.azimuthScale * blockAzimuth.toNat + d.azimuth) = true := by
  have small := blockAzimuth.toNat_lt
  have word : -2147483648 ≤ d.azimuth ∧ d.azimuth ≤ 2147483647 := of_decide_eq_true worded.azimuth
  apply decide_eq_true
  simp only [WordRange.int64, Spinning.azimuthScale]
  omega

theorem Unused.direction (unused : t.Unused h) (worded : c.Worded) {position : Nat}
    (known : position < c.channels.size) (tail : Tail) (loop : Nat) (blockAzimuth : UInt16) :
    t.direction c h tail loop blockAzimuth position =
      Spinning.direction c blockAzimuth position := by
  have offset : t.fireOffset loop position tail.motorSpeed = 0 := by
    rw [fireOffset, unused.activeFireTimes]
  have fits := contains_azimuth (worded _ (Array.getElem_mem known)) blockAzimuth
  rw [Tables.direction, unused.channel, Spinning.direction_eq known]
  simp only [bind, Except.bind, offset, Int.add_zero, fits, if_true]
  rfl

theorem Unused.plain_correction (unused : t.Unused h) (worded : c.Worded) :
    Spinning.Plain c h (t.correction c) where
  elevations := rfl
  needed := by
    show t.needed h = h.laserCount
    rw [Tables.needed, unused.configFor]
  aim covered tail i b returns := by
    refine ⟨rfl, ?_⟩
    intro j hj
    rw [returns] at hj
    exact unused.direction worded (Nat.lt_of_lt_of_le hj covered) tail _ b.azimuth

end QT128.Tables

namespace Decoder

variable {packet : Bytes} {out out' : Buffers} {verdict : Verdict}

theorem decode_p128 {s s' : State (Option AngleCorrection)}
    (h : P128.family.decode s packet out = (verdict, s', out')) :
    (p128 s).decode packet out = (verdict, p128 s', out') := by
  rw [decode, h]

theorem decode_qt128 {t t' : State QT128.Tables}
    (h : QT128.family.decode t packet out = (verdict, t', out')) :
    (qt128 t).decode packet out = (verdict, qt128 t', out') := by
  rw [decode, h]

end Decoder

end Lidar
