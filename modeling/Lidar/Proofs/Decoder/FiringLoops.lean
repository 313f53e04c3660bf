import Lidar.Proofs.Decoder.Outcome
import Lidar.Proofs.Decoder.Placement

namespace Lidar

/-- The table names the laser that stands at a position anyway. -/
def ChannelConfig.Identity (c : ChannelConfig) : Prop :=
  ∀ loop position channel, c.remap loop position = some channel → channel = position

namespace QT128

/-- The loop of a block: the mode flag selects that of the first one, and loops change from block to
block, or from pair to pair when each firing reports two returns. -/
def Tail.loopOf (t : Tail) (block : Nat) : Nat :=
  (t.modeFlag.toNat + block / (if t.returnMode < 0x39 then 1 else 2) + 1) % 2

theorem Tail.loopIndex_eq_loopOf (t : Tail) (block : Nat) : t.loopIndex block = t.loopOf block := by
  rw [loopIndex, loopOf, isDualReturn, dualReturnMode]
  by_cases single : t.returnMode < 0x39
  · rw [if_pos single, decide_eq_false (UInt8.not_le.2 single)]
    rfl
  · rw [if_neg single, decide_eq_true (UInt8.not_lt.1 single)]
    rfl

theorem Tail.loopOf_pair {t : Tail} (dual : ¬t.returnMode < 0x39) (pair : Nat) :
    t.loopOf (2 * pair + 1) = t.loopOf (2 * pair) := by
  rw [loopOf, loopOf, if_neg dual]
  omega

namespace Tables

variable {t : Tables} {h : Header} {c : AngleCorrection} {tail : Tail} {loop position : Nat}

/-- The laser at a wire position: the one of the channel table if one is loaded, the packet
announces a custom sequence and the table covers the position; otherwise the one of that number. -/
inductive Fires (t : Tables) (h : Header) (loop position : Nat) : Nat → Prop
  | remapped {config : ChannelConfig} {channel : Nat} (loaded : t.config = some config)
      (announced : h.flags.selfDefine = true)
      (covered : config.remap loop position = some channel) : Fires t h loop position channel
  | unmoved (uncovered : ∀ config, t.config = some config → h.flags.selfDefine = true →
      config.remap loop position = none) : Fires t h loop position position

/-- The angle swept until a laser fires: that of the firing times if they are loaded and in use,
otherwise none. -/
inductive Sweeps (t : Tables) (loop channel : Nat) (rpm : UInt16) : Int → Prop
  | timed {times : FireTimes} (loaded : t.fireTimes = some times)
      (enabled : t.fireTimeCorrection = true) :
      Sweeps t loop channel rpm (times.azimuthOffset loop channel rpm)
  | untimed (unused : t.fireTimes = none ∨ t.fireTimeCorrection = false) :
      Sweeps t loop channel rpm 0

theorem fires_channel (t : Tables) (h : Header) (loop position : Nat) :
    t.Fires h loop position (t.channel h loop position) := by
  rw [channel, configFor]
  by_cases announced : h.flags.selfDefine = true
  · rw [if_pos announced]
    cases loaded : t.config with
    | none =>
      exact .unmoved fun config other => by rw [loaded] at other; cases other
    | some config =>
      rw [Option.bind_some]
      cases covered : config.remap loop position with
      | none =>
        refine .unmoved fun other same _ => ?_
        obtain rfl := Option.some.inj (loaded.symm.trans same)
        exact covered
      | some channel => exact .remapped loaded announced covered
  · rw [if_neg announced]
    exact .unmoved fun _ _ other => absurd other announced

theorem sweeps_fireOffset (t : Tables) (loop channel : Nat) (rpm : UInt16) :
    t.Sweeps loop channel rpm (t.fireOffset loop channel rpm) := by
  rw [fireOffset, activeFireTimes]
  by_cases enabled : t.fireTimeCorrection = true
  · rw [if_pos enabled]
    cases loaded : t.fireTimes with
    | none => exact .untimed (.inl loaded)
    | some times => exact .timed loaded enabled
  · rw [if_neg enabled]
    exact .untimed (.inr (Bool.eq_false_iff.2 enabled))

/-- A direction that is known is that of its laser, turned by the block and by the firing time. -/
theorem direction_ok {blockAzimuth : UInt16} {d : Direction}
    (directed : t.direction c h tail loop blockAzimuth position = .ok d) :
    ∃ base, c.channels[t.channel h loop position]? = some base ∧ d = {
      elevation := base.elevation
      azimuth := 10 * blockAzimuth.toNat + base.azimuth +
        t.fireOffset loop (t.channel h loop position) tail.motorSpeed } := by
  obtain ⟨e, known, rest⟩ := bind_eq_ok_iff.1 directed
  obtain ⟨base, found, rfl⟩ := Spinning.direction_ok known
  dsimp only at rest
  split at rest
  · exact ⟨base, found, (Except.ok.inj rest).symm⟩
  · cases rest

theorem laserCount_le_needed (t : Tables) (h : Header) : h.laserCount ≤ t.needed h := by
  rw [needed]
  split
  · exact Nat.le_refl _
  · exact Nat.le_max_left _ _

/-- Without channel table each position has its own laser, and so it has with a table that says
just that. -/
theorem channel_of_identity (same : ∀ config, t.config = some config → config.Identity)
    (h : Header) (loop position : Nat) : t.channel h loop position = position := by
  generalize found : t.channel h loop position = channel
  have fires := t.fires_channel h loop position
  rw [found] at fires
  cases fires with
  | remapped loaded _ covered => exact same _ loaded _ _ _ covered
  | unmoved _ => rfl

/-- The tables without channel table. -/
def withoutConfig (t : Tables) : Tables := { t with config := none }

theorem needed_withoutConfig (t : Tables) (h : Header) :
    t.withoutConfig.needed h = h.laserCount := by
  have nothing : t.withoutConfig.configFor h = none := ite_self none
  rw [needed, nothing]

theorem aim_of_identity (same : ∀ config, t.config = some config → config.Identity)
    (c : AngleCorrection) : (t.withoutConfig.correction c).aim = (t.correction c).aim := by
  have plain (h : Header) (loop position : Nat) :
      t.withoutConfig.channel h loop position = t.channel h loop position := by
    rw [channel_of_identity same, channel_of_identity (fun _ loaded => by cases loaded)]
  have direction (h : Header) (tail : Tail) (loop : Nat) (azimuth : UInt16) :
      t.withoutConfig.direction c h tail loop azimuth = t.direction c h tail loop azimuth := by
    funext position
    rw [Tables.direction, Tables.direction, plain]
    rfl
  funext h tail i b
  rw [correction, correction]
  dsimp only
  rw [direction]

end Tables

end QT128

namespace Decoder

variable {s : State QT128.Tables} {packet : Bytes} {out : Buffers}

/-- A table that moves no laser may as well be missing. -/
theorem decode_withoutConfig
    (same : ∀ config, s.tables.config = some config → config.Identity) {report : Report}
    (accepted : ((qt128 s).decode packet out).1 = .accepted report) :
    let e := qt128 { s with tables := s.tables.withoutConfig }
    (e.decode packet out).1 = .accepted report ∧
      (e.decode packet out).2.2 = ((qt128 s).decode packet out).2.2 := by
  intro e
  obtain ⟨k, contents, points, decodes⟩ := Family.exists_decodes (f := QT128.family) accepted
  obtain ⟨c, loaded, rfl⟩ := Option.map_eq_some_iff.1 decodes.loaded
  have aimed : (s.tables.withoutConfig.correction c).aimed packet contents =
      (s.tables.correction c).aimed packet contents := by
    rw [Correction.aimed, QT128.Tables.aim_of_identity same]
    rfl
  have decodes' : QT128.family.Decodes { s with tables := s.tables.withoutConfig } packet out
      (s.tables.withoutConfig.correction c) contents points := by
    refine ⟨⟨?_, decodes.read, ?_, decodes.roomy⟩, decodes.parsed, ?_⟩
    · exact congrArg (Option.map s.tables.withoutConfig.correction) loaded
    · have fewer := Nat.le_trans (s.tables.laserCount_le_needed _) decodes.covered
      rwa [← s.tables.needed_withoutConfig] at fewer
    · rw [aimed]
      exact decodes.pointed
  have decoded := decode_qt128 decodes.decode_eq
  have decoded' := decode_qt128 decodes'.decode_eq
  rw [aimed] at decoded'
  constructor
  · rw [← accepted, decoded, decoded']
    rfl
  · rw [decoded, decoded']

/-- Every return of an accepted packet makes the point at the place of its block and its position.
Its direction is the calibrated one of the laser that fires there in the loop of the block, turned
by the azimuth of the block and the angle swept until the laser fires. So a channel table that moves
no laser changes nothing, and the two blocks of a dual return share their loop. -/
theorem returns_placed_by_loop (s : State QT128.Tables) (packet : Bytes) (out : Buffers)
    (report : Report) (accepted : ((qt128 s).decode packet out).1 = .accepted report) :
    let h := Header.ofBytes packet
    let after := ((qt128 s).decode packet out).2.2
    ∃ c contents, s.tables.calibration = some c ∧
      (QT128.format.packetOf packet).contents? = some contents ∧
      report.pointCount = h.laserCount * h.blockCount ∧
      (∀ i < h.blockCount, ∀ j < h.laserCount, ∃ block ret channel base swept,
        contents.blocks[i]? = some block ∧ block.returns[j]? = some ret ∧
        s.tables.Fires h (contents.tail.loopOf i) j channel ∧
        c.channels[channel]? = some base ∧
        s.tables.Sweeps (contents.tail.loopOf i) channel contents.tail.motorSpeed swept ∧
        after.point? (i * h.laserCount + j) = some (Point.ofPolar .milliDegree
          (ret.distance.toFloat32 * h.distanceScale)
          { elevation := base.elevation
            azimuth := 10 * block.azimuth.toNat + base.azimuth + swept }
          (intensity ret.reflectivity))) ∧
      (∀ config, s.tables.config = some config → config.Identity →
        let e := qt128 { s with tables := s.tables.withoutConfig }
        (e.decode packet out).1 = .accepted report ∧ (e.decode packet out).2.2 = after) ∧
      (¬contents.tail.returnMode < 0x39 → ∀ pair,
        contents.tail.loopOf (2 * pair + 1) = contents.tail.loopOf (2 * pair)) := by
  intro h after
  obtain ⟨k, contents, points, decodes⟩ := Family.exists_decodes (f := QT128.family) accepted
  obtain ⟨c, loaded, rfl⟩ := Option.map_eq_some_iff.1 decodes.loaded
  have written : after = out.overwrite points := decodes.buffers_eq
  have total (i : Nat) (b : Block) :
      (s.tables.correction c).aim h contents.tail i b = some {
        azimuth := b.azimuth.toNat
        direction := s.tables.direction c h contents.tail (contents.tail.loopIndex i) b.azimuth } :=
    rfl
  refine ⟨c, contents, loaded, decodes.read, ?_, ?_, ?_, fun dual => QT128.Tail.loopOf_pair dual⟩
  · obtain rfl := decodes.report_eq accepted
    exact decodes.length_of_total total
  · intro i hi j hj
    obtain ⟨block, ret, d, hblock, hret, directed, point⟩ := decodes.placed_of_total total hi hj
    obtain ⟨base, known, rfl⟩ := QT128.Tables.direction_ok directed
    rw [QT128.Tail.loopIndex_eq_loopOf] at known point
    refine ⟨block, ret, _, base, _, hblock, hret, s.tables.fires_channel h _ j, known,
      s.tables.sweeps_fireOffset _ _ _, ?_⟩
    rw [written]
    exact point
  · intro config loaded identity
    apply decode_withoutConfig _ accepted
    intro other same
    obtain rfl := Option.some.inj (loaded.symm.trans same)
    exact identity

/-- Two blocks of two lasers of a custom sequence. The second block is fired in the first loop. -/
def loopsPacket : Bytes :=
  #[0xEE, 0xFF, 3, 2, 0, 0, 2, 2, 0, 4, 1, 0x40,
    0x28, 0x23, 1, 0, 10, 2, 0, 20,
    0x32, 0x23, 3, 0, 30, 4, 0, 40,
    0, 0, 0, 0,
    0, 0, 0, 0, 0, 0, 0, 0, 0, 0, 0, 0, 0x37, 0x58, 2, 0, 0, 0, 0, 0, 0, 0, 0, 0, 0, 0,
    0, 0, 0, 0]

def loopsContents : Contents QT128.Tail where
  blocks := [⟨9000, 0, [⟨1, 10⟩, ⟨2, 20⟩]⟩, ⟨9010, 0, [⟨3, 30⟩, ⟨4, 40⟩]⟩]
  tail := {
    reserved1 := #v[0, 0, 0], reserved2 := #v[0, 0], modeFlag := 0, reserved3 := #v[0, 0, 0]
    azimuthFlag := 0, workingMode := 0, returnMode := 0x37, motorSpeed := 600
    utc := #v[0, 0, 0, 0, 0, 0], timestamp := 0, factoryInfo := 0 }
  sequence := none
  imu := none

theorem contents_loopsPacket :
    (QT128.format.packetOf loopsPacket).contents? = some loopsContents := by
  decide +kernel

/-- The first loop swaps its two lasers, and the second of them fires late in it. -/
def swapped : QT128.Tables where
  calibration := some twoLasers
  config := some {
    major := 1, minor := 0, laserCount := 2, blockCount := 2, loopCount := 2
    rows := #[#[1, 0], #[0, 1]], hash := none }
  fireTimes := some ⟨#[#[0, 100], #[0, 0]]⟩

def swapping : State QT128.Tables := { QT128.family.initial with tables := swapped }

theorem azimuthsFit_swapping : (qt128 swapping).AzimuthsFit loopsPacket := by
  intro c contents loaded read
  obtain rfl := Option.some.inj loaded
  obtain rfl := Option.some.inj (contents_loopsPacket.symm.trans read)
  have fits : ∀ x ∈ loopsContents.blocks.zipIdx, ∀ j < x.1.returns.length,
      WordRange.int64.contains (swapped.correctedAzimuth twoLasers (.ofBytes loopsPacket)
        loopsContents.tail (loopsContents.tail.loopIndex x.2) x.1.azimuth j) = true := by
    decide +kernel
  exact fun b i listed => fits (b, i) listed

/-- The first return of the second block belongs to the second laser, which fires as the sensor has
turned by 360 thousandths of a degree. -/
theorem returns_placed_in_loopsPacket :
    let d := qt128 swapping
    ∃ report, (d.decode loopsPacket (.blank 4)).1 = .accepted report ∧ report.pointCount = 4 ∧
      (d.decode loopsPacket (.blank 4)).2.2.point? 2 = some (Point.ofPolar .milliDegree
        ((3 : UInt16).toFloat32 * (Header.ofBytes loopsPacket).distanceScale)
        { elevation := -2000, azimuth := 10 * 9010 - 30 + 360 } (intensity 30)) := by
  intro d
  have passed : Test.complaint? (d.tests loopsPacket (Buffers.blank 4).room) = none := rfl
  rcases decode_of_passed (show d.Sound from trivial) passed with ⟨-, accepts⟩ | ⟨unfit, -⟩
  · obtain ⟨report, splitter, motion, out', decoded, -⟩ := accepts
    have accepted : (d.decode loopsPacket (.blank 4)).1 = .accepted report := by rw [decoded]
    obtain ⟨c, contents, loaded, read, count, points, -⟩ :=
      returns_placed_by_loop swapping loopsPacket (.blank 4) report accepted
    obtain rfl := Option.some.inj loaded
    obtain rfl := Option.some.inj (contents_loopsPacket.symm.trans read)
    refine ⟨report, accepted, count, ?_⟩
    obtain ⟨block, ret, channel, base, swept, hblock, hret, fires, known, sweeps, point⟩ :=
      points 1 (by decide) 0 (by decide)
    obtain rfl := Option.some.inj hblock
    obtain rfl := Option.some.inj hret
    have second : channel = 1 := by
      cases fires with
      | remapped loaded _ covered =>
        obtain rfl := Option.some.inj loaded
        exact (Option.some.inj covered).symm
      | unmoved uncovered => cases uncovered _ rfl rfl
    obtain rfl := second
    obtain rfl := Option.some.inj known
    have late : swept = 360 := by
      cases sweeps with
      | timed loaded _ =>
        obtain rfl := Option.some.inj loaded
        decide +kernel
      | untimed unused => rcases unused with absent | off <;> contradiction
    rw [late] at point
    exact point
  · exact absurd azimuthsFit_swapping unfit

end Decoder

end Lidar
