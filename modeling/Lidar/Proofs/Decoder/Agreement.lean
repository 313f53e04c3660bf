import Lidar.Proofs.Decoder.FrameState
import Lidar.Proofs.Decoder.Spinning

namespace Lidar

/-- The reports say the same of points, angles and frame. -/
structure Report.SamePoints (r r' : Report) : Prop where
  pointCount : r.pointCount = r'.pointCount
  scanComplete : r.scanComplete = r'.scanComplete
  azimuths : r.azimuths = r'.azimuths
  elevations : r.elevations = r'.elevations

namespace Decoder

/-- Both decoders lack channels and change nothing, or both accept and give the same. -/
inductive Agree (d e : Decoder) (packet packet' : Bytes) (out out' : Buffers)
    (lasers loaded : Nat) : Prop where
  | mismatched (uncovered : loaded < lasers)
      (left : d.decode packet out = (.rejected (.channelMismatch lasers loaded), d, out))
      (right : e.decode packet' out' = (.rejected (.channelMismatch lasers loaded), e, out'))
  | accepted (r r' : Report) (covered : lasers ≤ loaded)
      (left : (d.decode packet out).1 = .accepted r)
      (right : (e.decode packet' out').1 = .accepted r')
      (reports : r.SamePoints r')
      (points : (d.decode packet out).2.2.take r.pointCount =
        (e.decode packet' out').2.2.take r.pointCount)
      (frames : (d.decode packet out).2.1.splitter = (e.decode packet' out').2.1.splitter)

section Sensors

variable {c : AngleCorrection} {packet packet' : Bytes} {p : Packet P128.Tail}
  {q : Packet QT128.Tail} {out out' : Buffers}

/-- The decoders have equal angles and frames, the packets equal blocks, and the second decoder
uses none of its other tables. -/
structure CommonGround (d e : Decoder) (c : AngleCorrection) (p : Packet P128.Tail)
    (q : Packet QT128.Tail) : Prop where
  calibration : d.parts.calibration = some (.angles c)
  calibration' : e.parts.calibration = some (.angles c)
  frame : d.splitter = e.splitter
  blocks : p.SameBlocks q
  config : e.parts.config = none ∨ q.header.flags.selfDefine = false
  fireTimes : e.parts.fireTimes = none ∨ e.parts.fireTimeCorrection = some false

/-- What is reported of a walk does not depend on the sensor. -/
theorem samePoints_reports {h h' : Header} (lasers : h.laserCount = h'.laserCount)
    {t : QT128.Tables} (contents : Contents P128.Tail) (contents' : Contents QT128.Tail)
    (scan : Scan) :
    (P128.family.report h (P128.correction c) contents scan).SamePoints
      (QT128.family.report h' (t.correction c) contents' scan) := by
  refine ⟨rfl, rfl, rfl, ?_⟩
  simp only [Family.report, lasers]
  rfl

theorem agree_of_states {s : State (Option AngleCorrection)} {t : State QT128.Tables}
    (loaded : s.tables = some c) (loaded' : t.tables.calibration = some c) (worded : c.Worded)
    (frames : s.splitter = t.splitter) (parsed : P128.format.parse packet = .ok p)
    (parsed' : QT128.format.parse packet' = .ok q) (same : p.SameBlocks q)
    (unused : t.tables.Unused q.header) (roomy : p.header.capacity ≤ out.room)
    (roomy' : q.header.capacity ≤ out'.room) :
    Agree (p128 s) (qt128 t) packet packet' out out' p.header.laserCount c.channels.size := by
  have lasers : q.header.laserCount = p.header.laserCount :=
    congrArg UInt8.toNat same.geometry.lasers.symm
  have scale : q.header.distanceScale = p.header.distanceScale := by
    rw [Header.distanceScale, Header.distanceScale, same.geometry.distanceUnit]
  have correction : P128.family.correction? s.tables = some (P128.correction c) := by
    rw [loaded]
    rfl
  have correction' : QT128.family.correction? t.tables = some (t.tables.correction c) := by
    show t.tables.calibration.map t.tables.correction = _
    rw [loaded', Option.map_some]
  have plain := P128.plain_correction c p.header
  have plain' := unused.plain_correction worded
  rcases Nat.lt_or_ge c.channels.size p.header.laserCount with uncovered | covered
  · refine .mismatched uncovered ?_ ?_
    · exact decode_p128 (Family.decode_of_uncovered parsed correction plain roomy uncovered)
    · rw [← lasers] at uncovered ⊢
      exact decode_qt128 (Family.decode_of_uncovered parsed' correction' plain' roomy' uncovered)
  · obtain ⟨contents, scan, blocks, walked, decoded⟩ :=
      Family.decode_of_covered P128.format_lawful parsed correction plain roomy covered
    obtain ⟨contents', scan', blocks', walked', decoded'⟩ :=
      Family.decode_of_covered QT128.format_lawful parsed' correction' plain' roomy'
        (Nat.le_trans (Nat.le_of_eq lasers) covered)
    obtain ⟨-, -, format, -⟩ := Format.parse_eq_ok_iff.1 parsed
    obtain ⟨-, -, format', -⟩ := Format.parse_eq_ok_iff.1 parsed'
    have read : contents.blocks = contents'.blocks :=
      Option.some.inj (blocks.symm.trans ((same.blocks? format format').trans blocks'))
    have one : scan = scan' := by
      rw [read, frames, ← scale] at walked
      exact Except.ok.inj (walked.symm.trans walked')
    subst one
    have left := decode_p128 decoded
    have right := decode_qt128 decoded'
    refine .accepted _ _ covered (congrArg Prod.fst left) (congrArg Prod.fst right)
      (samePoints_reports lasers.symm contents contents' scan) ?_ ?_
    · rw [left, right]
      exact (Buffers.take_overwrite out scan.points).trans
        (Buffers.take_overwrite out' scan.points).symm
    · rw [left, right]
      rfl

theorem worded_after (m : Model) (ops : List Operation)
    (loaded : ((ofModel m).after ops).parts.calibration = some (.angles c)) : c.Worded := by
  refine calibration_after (P := fun k => ∀ c, k = .angles c → c.Worded) ?_ ?_ ops _ loaded c rfl
  · rintro blob _ parsed c rfl
    rw [model_ofModel] at parsed
    cases m with
    | p128 | qt128 =>
      obtain ⟨c', read, same⟩ := map_eq_ok_iff.1 parsed
      obtain rfl := Calibration.angles.inj same
      exact AngleCorrection.worded_of_parse read
    | at128 =>
      obtain ⟨s, -, other⟩ := map_eq_ok_iff.1 parsed
      cases other
  · intro k loaded
    rw [parts_ofModel_calibration] at loaded
    cases loaded

/-- Whatever brought the two decoders there: on common ground, and with room enough, they agree. -/
theorem spinning_sensors_agree (past past' : List Operation)
    (common : CommonGround ((ofModel .p128).after past) ((ofModel .qt128).after past') c p q)
    (parsed : P128.format.parse packet = .ok p) (parsed' : QT128.format.parse packet' = .ok q)
    (roomy : p.header.capacity ≤ out.room) (roomy' : q.header.capacity ≤ out'.room) :
    Agree ((ofModel .p128).after past) ((ofModel .qt128).after past') packet packet' out out'
      p.header.laserCount c.size := by
  have worded : c.Worded := worded_after .p128 past common.calibration
  have model := model_after (ofModel .p128) past
  have model' := model_after (ofModel .qt128) past'
  obtain ⟨loaded, loaded', frames, same, config, fireTimes⟩ := common
  generalize (ofModel .p128).after past = d at *
  generalize (ofModel .qt128).after past' = e at *
  cases d with
  | qt128 s | at128 s => cases model
  | p128 s =>
    cases e with
    | p128 t | at128 t => cases model'
    | qt128 t =>
      have angles : s.tables = some c := Option.map_injective angles_injective loaded
      have angles' : t.tables.calibration = some c :=
        Option.map_injective angles_injective loaded'
      have unused : t.tables.Unused q.header :=
        ⟨config, fireTimes.imp_right Option.some.inj⟩
      exact agree_of_states angles angles' worded frames parsed parsed' same unused roomy roomy'

end Sensors

/-- The block of `onesPacket` for the other sensor, with sequence number, inertial data and function
safety around it. -/
def onesPacketWithSections : Bytes :=
  #[0xEE, 0xFF, 1, 4, 0, 0, 1, 1, 0, 4, 1, 0x07] ++ Array.replicate 82 1

theorem spinning_sensors_agree_onesPacket :
    let d := (ofModel .p128).after [.loadCalibration oneLaser]
    let e := (ofModel .qt128).after [.loadCalibration oneLaser]
    ∃ p q, CommonGround d e ⟨#[⟨0, 0⟩]⟩ p q ∧
      P128.format.parse onesPacketWithSections = .ok p ∧ QT128.format.parse onesPacket = .ok q ∧
      Agree d e onesPacketWithSections onesPacket (.blank 1) (.blank 5) 1 1 := by
  intro d e
  have parsed := (Format.parse_of_opens (f := P128.format) (b := onesPacketWithSections)
    ⟨by decide, rfl, rfl, rfl, rfl⟩).trans (if_pos (by decide))
  have parsed' := (Format.parse_of_opens (f := QT128.format) (b := onesPacket)
    ⟨by decide, rfl, rfl, rfl, rfl⟩).trans (if_pos (by decide))
  have loaded := parts_of_oneLaser (m := .p128) (by decide)
  have loaded' := parts_of_oneLaser (m := .qt128) (by decide)
  have geometry : (Header.ofBytes onesPacketWithSections).SameGeometry (.ofBytes onesPacket) :=
    ⟨by decide, by decide, by decide, by decide⟩
  have blocks : ∀ i < 17, 12 ≤ i → onesPacketWithSections[i]? = onesPacket[i]? := by decide
  have common : CommonGround d e ⟨#[⟨0, 0⟩]⟩ (P128.format.packetOf onesPacketWithSections)
      (QT128.format.packetOf onesPacket) := by
    refine ⟨congrArg Parts.calibration loaded, congrArg Parts.calibration loaded', ?_,
      ⟨geometry, fun i front back => blocks i back front⟩, .inr (by decide),
      .inl (congrArg Parts.fireTimes loaded')⟩
    rw [← splitter_parts, ← splitter_parts, loaded, loaded']
    rfl
  exact ⟨_, _, common, parsed, parsed', spinning_sensors_agree _ _ common parsed parsed'
    (by decide) (by decide)⟩

end Decoder

end Lidar
