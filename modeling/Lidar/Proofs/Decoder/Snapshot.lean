import Lidar.Proofs.Decoder.Fallback
import Lidar.Proofs.Decoder.FrameState

namespace Lidar

namespace Constants

/-- The constants of a spinning sensor at a motion, where no speed counts as 600 revolutions per
minute. Speed decides the packets of a second, and the number of returns those of a revolution. -/
structure OfSpin (k : Constants) (motion : Motion) : Prop where
  spinFrequency :
    k.spinFrequency = Float32.ofInt (if motion.speed = 0 then 600 else motion.speed) / 60.0
  packetsPerSpin : k.packetsPerSpin = if motion.dualReturn then 1800 else 900
  packetsPerSecond :
    k.packetsPerSecond = nearestUInt32 (Float32.ofInt k.packetsPerSpin * k.spinFrequency)
  pointsPerPacket : k.pointsPerPacket = 256
  pointsPerSpin : k.pointsPerSpin = 256 * k.packetsPerSpin
  pointsPerSecond : k.pointsPerSecond = 256 * k.packetsPerSecond
  maxPayload : k.maxPayload = 1500
  pointStride : k.pointStride = 8
  horizontalView : k.horizontalView = (0.0, 2.0 * pi32)
  verticalView : k.verticalView = (toRadians32 (-52.6), toRadians32 52.6)
  rowCount : k.rowCount = 128

/-- What a motion makes of the numbers of a sweep with dual return at speed 2000, which every speed
counts as that is not positive: they follow the speed, and a single return halves them. -/
def sweepScale (motion : Motion) : Float32 :=
  Float32.ofInt (if motion.speed ≤ 0 then 2000 else motion.speed) / Float32.ofInt 2000 /
    (if motion.dualReturn then 1.0 else 2.0)

/-- The constants of a sweeping sensor at a motion. -/
structure OfSweep (k : Constants) (motion : Motion) : Prop where
  spinFrequency :
    k.spinFrequency = Float32.ofInt (if motion.speed ≤ 0 then 2000 else motion.speed) / 200.0
  packetsPerSpin : k.packetsPerSpin = nearestUInt32 (1250.0 * sweepScale motion)
  packetsPerSecond :
    k.packetsPerSecond = nearestUInt32 (Float32.ofInt k.packetsPerSpin * k.spinFrequency)
  pointsPerPacket : k.pointsPerPacket = 256
  pointsPerSpin : k.pointsPerSpin = nearestUInt32 (320000.0 * sweepScale motion)
  pointsPerSecond :
    k.pointsPerSecond = nearestUInt32 (Float32.ofInt k.pointsPerSpin * k.spinFrequency)
  maxPayload : k.maxPayload = 1500
  pointStride : k.pointStride = 4
  horizontalView : k.horizontalView = (0.5, 2.8)
  verticalView : k.verticalView = (-0.216697, 0.224673)
  rowCount : k.rowCount = 128

theorem ofSpin_spinning (motion : Motion) (elevations : Array Float32) :
    (spinning motion elevations).OfSpin motion where
  spinFrequency := rfl
  packetsPerSpin := by
    rw [spinning]
    cases motion.dualReturn <;> rfl
  packetsPerSecond := rfl
  pointsPerPacket := rfl
  pointsPerSpin := Int.mul_comm _ _
  pointsPerSecond := Int.mul_comm _ _
  maxPayload := rfl
  pointStride := rfl
  horizontalView := rfl
  verticalView := rfl
  rowCount := rfl

theorem ofSweep_sweeping (motion : Motion) (elevations : Array Float32) :
    (sweeping motion elevations).OfSweep motion where
  spinFrequency := rfl
  packetsPerSpin := rfl
  packetsPerSecond := rfl
  pointsPerPacket := rfl
  pointsPerSpin := rfl
  pointsPerSecond := rfl
  maxPayload := rfl
  pointStride := rfl
  horizontalView := rfl
  verticalView := rfl
  rowCount := rfl

end Constants

namespace Model

/-- The motion assumed before the first packet. -/
def startMotion : Model → Motion
  | p128 | qt128 => { speed := 0, dualReturn := false }
  | at128 => { speed := 0, dualReturn := true }

/-- An elevation in radians, from thousandths of a degree for the spinning sensors and from
25600ths for the sweeping one. -/
def elevationRadians : Model → Int → Float32
  | p128, elevation | qt128, elevation => toRadians32 (Float32.ofInt elevation / 1000.0)
  | at128, elevation => (toRadians (Float.ofInt elevation / 25600.0)).toFloat32

/-- The constants are those of the model at a motion. -/
def Formula : Model → Constants → Motion → Prop
  | p128, k, motion | qt128, k, motion => k.OfSpin motion
  | at128, k, motion => k.OfSweep motion

def constants : Model → Motion → Array Float32 → Constants
  | p128 | qt128 => Constants.spinning
  | at128 => Constants.sweeping

theorem formula_constants (m : Model) (motion : Motion) (angles : Array Float32) :
    m.Formula (m.constants motion angles) motion := by
  cases m with
  | p128 | qt128 => exact Constants.ofSpin_spinning motion angles
  | at128 => exact Constants.ofSweep_sweeping motion angles

end Model

/-- What a report tells of the motion. -/
def Report.motion (r : Report) : Motion := { speed := r.motorSpeed, dualReturn := r.dualReturn }

namespace Decoder

def Calibration.elevations : Calibration → Array Int
  | angles c => c.channels.map (·.elevation)
  | sweep c => c.channels.map (·.elevation)

/-- The angle of a row: that of its channel, and zero for a row without one. -/
def rowAngle (m : Model) (calibration : Option Calibration) (row : Nat) : Float32 :=
  match calibration.bind (·.elevations[row]?) with
  | some elevation => m.elevationRadians elevation
  | none => 0

/-- The constants are those of the model at a motion, with the angles of a calibration. -/
structure Shows (k : Constants) (m : Model) (motion : Motion) (calibration : Option Calibration) :
    Prop where
  formula : m.Formula k motion
  count : k.rows.size = 128
  rows : ∀ row < 128, k.rows[row]? = some (rowAngle m calibration row)

theorem rows_constants (m : Model) (motion : Motion) (angles : Array Float32) :
    (m.constants motion angles).rows = Constants.rowsOf angles := by
  cases m <;> simp only [Model.constants, Constants.spinning, Constants.sweeping]

theorem getElem?_rowsOf (angles : Array Float32) {row : Nat} (inside : row < 128) :
    (Constants.rowsOf angles)[row]? = some (angles.getD row 0) := by
  have room : row < (Constants.rowsOf angles).size := by
    simpa [Constants.rowsOf, Constants.rowLimit] using inside
  rw [Array.getElem?_eq_getElem room]
  simp [Constants.rowsOf]

theorem constants_eq (d : Decoder) : d.constants = d.model.constants d.parts.motion
    (((d.parts.calibration.map Calibration.elevations).getD #[]).map d.model.elevationRadians) := by
  cases d with
  | p128 s =>
    have elevations : ((P128.family.correction? s.tables).map (·.elevations)).getD #[] =
        ((s.tables.map Calibration.angles).map Calibration.elevations).getD #[] := by
      cases s.tables <;> rfl
    simp only [constants, Family.constants, elevations]
    rfl
  | qt128 s =>
    have elevations : ((QT128.family.correction? s.tables).map (·.elevations)).getD #[] =
        ((s.tables.calibration.map Calibration.angles).map Calibration.elevations).getD #[] := by
      change ((s.tables.calibration.map s.tables.correction).map (·.elevations)).getD #[] = _
      cases s.tables.calibration <;> rfl
    simp only [constants, Family.constants, elevations]
    rfl
  | at128 s =>
    have elevations : ((AT128.family.correction? s.tables).map (·.elevations)).getD #[] =
        ((s.tables.map Calibration.sweep).map Calibration.elevations).getD #[] := by
      cases s.tables <;> rfl
    simp only [constants, Family.constants, elevations]
    rfl

/-- What a decoder shows is a matter of its motion and its calibration. -/
theorem shows_constants (d : Decoder) :
    Shows d.constants d.model d.parts.motion d.parts.calibration := by
  rw [constants_eq]
  constructor
  · exact d.model.formula_constants _ _
  · rw [rows_constants]
    simp [Constants.rowsOf, Constants.rowLimit]
  · intro row inside
    rw [rows_constants, getElem?_rowsOf _ inside, Array.getD_eq_getD_getElem?, Array.getElem?_map,
      rowAngle]
    cases d.parts.calibration with
    | none => rfl
    | some c => cases found : c.elevations[row]? <;> simp [found]

section Runs

variable {d : Decoder} {m : Model}

/-- The reports of the packets that are accepted in an event, which are one or none. -/
def reportsAt (d : Decoder) : Event → List Report
  | .operation op => (d.acceptedBy op).map (·.report)
  | .search _ _ => []

/-- The reports of the accepted packets of a run, in their order. -/
def reports (d : Decoder) : List Event → List Report
  | [] => []
  | event :: events => d.reportsAt event ++ (d.meet event).reports events

/-- The calibration that an event brings. A search brings that of the first source that has one. -/
def brought? (m : Model) : Event → Option Calibration
  | .operation (.loadCalibration blob) => (Calibration.parse m blob).toOption
  | .operation _ => none
  | .search files sources => sources.findSome? fun source => (source.calibration files m).toOption

/-- An event that has neither an accepted packet nor an accepted calibration. -/
inductive Idle (d : Decoder) : Event → Prop where
  | refusedPacket {packet : Bytes} {out : Buffers}
      (refused : ∀ report, (d.decode packet out).1 ≠ .accepted report) :
      Idle d (.operation (.decode packet out))
  | refusedCalibration {blob : Bytes} {x : LoadError}
      (refused : Calibration.parse d.model blob = .error x) :
      Idle d (.operation (.loadCalibration blob))
  | vainSearch {files : Files} {sources : List CalibrationSource}
      (vain : ∀ source ∈ sources, ∃ x, source.calibration files d.model = .error x) :
      Idle d (.search files sources)
  | channelConfig (blob : Bytes) : Idle d (.operation (.loadChannelConfig blob))
  | fireTimes (blob : Bytes) : Idle d (.operation (.loadFireTimes blob))
  | switch (on : Bool) : Idle d (.operation (.setFireTimeCorrection on))
  | reset : Idle d (.operation .reset)

theorem motion_moved (splitter : Splitter) (motion : Motion) :
    (d.moved splitter motion).parts.motion = motion := by
  cases d <;> rfl

theorem motion_of_made {packet : Bytes} {room : Nat} {made : Made}
    (h : d.made packet room = .ok (.ok made)) : made.motion = made.report.motion := by
  cases d with
  | p128 s | qt128 s | at128 s =>
    obtain ⟨c, contents, points, -, -, -, rfl⟩ := Family.made_ok h
    rfl

theorem motion_decode (packet : Bytes) (out : Buffers) :
    (d.apply (.decode packet out)).parts.motion =
      ((d.reportsAt (.operation (.decode packet out))).getLast?.map Report.motion).getD
        d.parts.motion := by
  rw [apply, reportsAt, acceptedBy]
  cases read : d.made packet out.room with
  | error reason =>
    rw [decode_eq_rejected read]
    rfl
  | ok walked =>
    cases walked with
    | error fault =>
      rw [decode_eq_aborted read]
      rfl
    | ok made =>
      rw [decode_eq_accepted read]
      dsimp only
      rw [motion_moved, motion_of_made read]
      rfl

theorem motion_load (d : Decoder) (blob : Bytes) (table : Table) :
    (d.apply (.load blob table)).parts.motion = d.parts.motion := by
  rcases parts_apply_load d blob table with same | ⟨l, -, same⟩
  · rw [same]
  · rw [same]
    cases l <;> rfl

theorem motion_apply (op : Operation) : (d.apply op).parts.motion =
    ((d.reportsAt (.operation op)).getLast?.map Report.motion).getD d.parts.motion := by
  cases op with
  | loadCalibration blob => exact motion_load d blob .calibration
  | loadChannelConfig blob => exact motion_load d blob .channelConfig
  | loadFireTimes blob => exact motion_load d blob .fireTimes
  | setFireTimeCorrection on => cases d <;> rfl
  | reset => cases d <;> rfl
  | decode packet out => exact motion_decode packet out

theorem calibration_apply (op : Operation) : (d.apply op).parts.calibration =
    (brought? d.model (.operation op)).or d.parts.calibration := by
  cases op with
  | loadCalibration blob =>
    rw [apply, brought?]
    cases parsed : Calibration.parse d.model blob with
    | error x =>
      rw [load_of_refused .calibration (map_eq_error_iff.2 parsed)]
      rfl
    | ok c =>
      obtain ⟨e, loaded, same⟩ := load_of_parsed .calibration
        (map_eq_ok_iff.2 ⟨c, parsed, rfl⟩)
      rw [loaded, same]
      rfl
  | loadChannelConfig blob =>
    cases d with
    | p128 s | at128 s => rfl
    | qt128 s =>
      rw [apply, load]
      cases ChannelConfig.parse blob <;> rfl
  | loadFireTimes blob =>
    cases d with
    | p128 s | at128 s => rfl
    | qt128 s =>
      rw [apply, load]
      cases FireTimes.parse blob <;> rfl
  | setFireTimeCorrection on => cases d <;> rfl
  | reset => cases d <;> rfl
  | decode packet out => exact calibration_decode d packet out

theorem findSome?_of_refused {files : Files} {sources : List CalibrationSource}
    (refused : ∀ source ∈ sources, ∃ x, source.calibration files m = .error x) :
    sources.findSome? (fun source => (source.calibration files m).toOption) = none := by
  rw [List.findSome?_eq_none_iff]
  intro source listed
  obtain ⟨x, unusable⟩ := refused source listed
  rw [unusable]
  rfl

/-- A search changes the calibration at most, to that of the first source that has one. -/
theorem parts_search (files : Files) (sources : List CalibrationSource) :
    (d.meet (.search files sources)).parts =
      { d.parts with
        calibration := (brought? d.model (.search files sources)).or d.parts.calibration } := by
  have searched := searchesInOrder files d sources
  rw [meet, brought?]
  cases ended : (d.loadCalibrationFrom files sources).outcome with
  | error x =>
    obtain ⟨kept, fails⟩ := searched.fails x ended
    rw [kept, findSome?_of_refused fails.unusable]
    rfl
  | ok =>
    obtain ⟨front, source, behind, c, rfl, refused, usable, same, -⟩ := searched.finds ended
    rw [same, List.findSome?_append, findSome?_of_refused refused, List.findSome?_cons, usable]
    rfl

theorem model_meet (event : Event) : (d.meet event).model = d.model := by
  cases event with
  | operation op => exact (follows_apply d op).model
  | search files sources =>
    rw [← model_parts, parts_search]
    exact model_parts d

theorem motion_meet (event : Event) : (d.meet event).parts.motion =
    ((d.reportsAt event).getLast?.map Report.motion).getD d.parts.motion := by
  cases event with
  | operation op => exact motion_apply op
  | search files sources =>
    rw [parts_search]
    rfl

theorem calibration_meet (event : Event) :
    (d.meet event).parts.calibration = (brought? d.model event).or d.parts.calibration := by
  cases event with
  | operation op => exact calibration_apply op
  | search files sources => rw [parts_search]

theorem Idle.reportsAt_eq {event : Event} (idle : d.Idle event) : d.reportsAt event = [] := by
  cases idle with
  | @refusedPacket packet out refused =>
    rw [reportsAt, acceptedBy]
    cases verdict : (d.decode packet out).1 with
    | accepted report => exact absurd verdict (refused report)
    | rejected reason | aborted fault => rfl
  | refusedCalibration | vainSearch | channelConfig | fireTimes | switch | reset => rfl

theorem Idle.brought?_eq {event : Event} (idle : d.Idle event) : brought? d.model event = none := by
  cases idle with
  | refusedCalibration refused =>
    rw [brought?, refused]
    rfl
  | vainSearch vain => exact findSome?_of_refused vain
  | refusedPacket | channelConfig | fireTimes | switch | reset => rfl

theorem Idle.constants_meet {event : Event} (idle : d.Idle event) :
    (d.meet event).constants = d.constants := by
  have motion := motion_meet (d := d) event
  have calibration := calibration_meet (d := d) event
  rw [idle.reportsAt_eq] at motion
  rw [idle.brought?_eq] at calibration
  rw [constants_eq, constants_eq d, model_meet, motion, calibration]
  rfl

theorem model_run (events : List Event) : (events.foldl meet d).model = d.model := by
  induction events generalizing d with
  | nil => rfl
  | cons event events ih => exact (ih (d := d.meet event)).trans (model_meet event)

/-- The last accepted packet of a run has the word on the motion. -/
theorem motion_run (events : List Event) : (events.foldl meet d).parts.motion =
    ((d.reports events).getLast?.map Report.motion).getD d.parts.motion := by
  induction events generalizing d with
  | nil => rfl
  | cons event events ih =>
    rw [List.foldl_cons, ih, motion_meet, reports, List.getLast?_append]
    cases ((d.meet event).reports events).getLast? <;> rfl

/-- The last accepted calibration of a run is the one that is loaded. -/
theorem calibration_run (events : List Event) : (events.foldl meet d).parts.calibration =
    (events.filterMap (brought? d.model)).getLast?.or d.parts.calibration := by
  induction events generalizing d with
  | nil => rfl
  | cons event events ih =>
    rw [List.foldl_cons, ih, calibration_meet, model_meet, List.filterMap_cons]
    cases brought? d.model event with
    | none => rfl
    | some c =>
      dsimp only
      rw [List.getLast?_cons]
      cases (events.filterMap (brought? d.model)).getLast? <;> rfl

end Runs

theorem motion_ofModel (m : Model) : (ofModel m).parts.motion = m.startMotion := by
  cases m <;> rfl

/-- After every run the constants are those of the motion in the last accepted packet, or of the
motion assumed at the start, and of the calibration that was accepted last, which is the one that is
loaded; before the first one all rows are level. Other events do not change them. -/
theorem constants_tell_last_packet_and_calibration (m : Model) (events : List Event) :
    let d := events.foldl meet (ofModel m)
    let motion := (((ofModel m).reports events).getLast?.map Report.motion).getD m.startMotion
    let calibration := (events.filterMap (brought? m)).getLast?
    d.parts.calibration = calibration ∧ Shows d.constants m motion calibration ∧
      ∀ event, d.Idle event → (d.meet event).constants = d.constants := by
  intro d motion calibration
  have model : d.model = m := (model_run events).trans (model_ofModel m)
  have moved : d.parts.motion = motion := by
    rw [motion_run, motion_ofModel]
  have loaded : d.parts.calibration = calibration := by
    rw [calibration_run, parts_ofModel_calibration, model_ofModel, Option.or_none]
  have shows := shows_constants d
  rw [model, moved, loaded] at shows
  exact ⟨loaded, shows, fun event idle => idle.constants_meet⟩

def tiltedLaser : Bytes := .ofText ['1', ',', '-', '2', '5', ',', '0']

theorem parse_tiltedLaser :
    Calibration.parse .p128 tiltedLaser = .ok (.angles ⟨#[⟨-25000, 0⟩]⟩) := by
  have parsed : AngleCorrection.parse tiltedLaser P128.channelLimit = .ok ⟨#[⟨-25000, 0⟩]⟩ := by
    rw [AngleCorrection.parse, tiltedLaser, Text.ofBlob_ofText]
    decide +kernel
  exact congrArg (Except.map Calibration.angles) parsed

/-- A packet at 1200 revolutions per minute with two returns, and a calibration behind it; the reset
is not seen, and a packet that is refused changes nothing. -/
theorem constants_tell_last_packet_and_calibration_at_twenty_hertz :
    let events : List Event := [.operation (.loadCalibration oneLaser),
      .operation (.decode beforeTurn.bytes (.blank 1)),
      .operation (.loadCalibration tiltedLaser), .operation .reset]
    let d := events.foldl meet (ofModel .p128)
    let stub : Event := .operation (.decode #[0xEE, 0xFF] (.blank 1))
    (ofModel .p128).constants.spinFrequency = 10.0 ∧
      (ofModel .p128).constants.packetsPerSpin = 900 ∧
      d.constants.spinFrequency = 20.0 ∧ d.constants.packetsPerSpin = 1800 ∧
      d.constants.packetsPerSecond = 36000 ∧ d.constants.pointsPerSecond = 9216000 ∧
      d.constants.rows[0]? = some (toRadians32 (-25.0)) ∧ d.constants.rows[1]? = some 0 ∧
      d.Idle stub ∧ (d.meet stub).constants = d.constants := by
  intro events d stub
  obtain ⟨-, fresh, -⟩ := constants_tell_last_packet_and_calibration .p128 []
  obtain ⟨-, shows, idle⟩ := constants_tell_last_packet_and_calibration .p128 events
  have reports : (ofModel .p128).reports events = [beforeTurn.report .start] := by
    have loaded : (ofModel .p128).meet (.operation (.loadCalibration oneLaser)) =
        leveled .start Spinning.initialMotion := after_oneLaser
    simp only [events, Decoder.reports, loaded, reportsAt,
      acceptedBy_flash beforeTurn _ _ (show 0 < (Buffers.blank 1).room by decide)]
    rfl
  have brought : events.filterMap (brought? .p128) =
      [.angles ⟨#[⟨0, 0⟩]⟩, .angles ⟨#[⟨-25000, 0⟩]⟩] := by
    have first : Calibration.parse .p128 oneLaser = .ok (.angles ⟨#[⟨0, 0⟩]⟩) :=
      parse_of_oneLaser (by decide)
    simp only [events, List.filterMap_cons, brought?, first, parse_tiltedLaser]
    rfl
  rw [reports, brought] at shows
  have frequency : d.constants.spinFrequency = 20.0 := by
    rw [shows.formula.spinFrequency]
    decide +kernel
  have packets : d.constants.packetsPerSpin = 1800 := shows.formula.packetsPerSpin
  have second : d.constants.packetsPerSecond = 36000 := by
    rw [shows.formula.packetsPerSecond, frequency, packets]
    decide +kernel
  have points : d.constants.pointsPerSecond = 9216000 := by
    rw [shows.formula.pointsPerSecond, second]
    rfl
  have tilted : d.constants.rows[0]? = some (toRadians32 (-25.0)) :=
    (shows.rows 0 (by decide)).trans (by decide +kernel)
  have flat : d.constants.rows[1]? = some 0 := (shows.rows 1 (by decide)).trans (by decide +kernel)
  have start : (ofModel .p128).constants.spinFrequency = 10.0 :=
    fresh.formula.spinFrequency.trans (by decide +kernel)
  have refused : d.Idle stub := .refusedPacket fun report accepted => by
    rw [decode_delimiter] at accepted
    cases accepted
  exact ⟨start, fresh.formula.packetsPerSpin, frequency, packets, second, points, tilted, flat,
    refused, idle stub refused⟩

end Decoder

end Lidar
