import Lidar.Proofs.Decoder.Admission
import Lidar.Proofs.Decoder.Directions
import Lidar.Proofs.Decoder.Parts
import Lidar.Proofs.Text.Sheets

namespace Lidar

namespace Decoder

/-- The channels of the loaded calibration. -/
def channelCount? : Decoder → Option Nat
  | p128 s => s.tables.map (·.channels.size)
  | qt128 s => s.tables.calibration.map (·.channels.size)
  | at128 s => s.tables.map (·.channels.size)

/-- The channels that a packet needs. A custom sequence needs those of its channel table too. -/
def neededChannels (d : Decoder) (h : Header) : Nat :=
  match d with
  | p128 _ | at128 _ => h.laserCount
  | qt128 s =>
    match s.tables.config with
    | none => h.laserCount
    | some c => if h.flags.selfDefine then max h.laserCount (c.maxChannel + 1) else h.laserCount

/-- All tests of a packet, for buffers with room for `room` points. -/
def tests (d : Decoder) (packet : Bytes) (room : Nat) : List Test :=
  d.model.format.tests packet ++
    Test.ofDecoding d.isCalibrated (d.neededChannels (.ofBytes packet)) (d.channelCount?.getD 0)
      (Header.ofBytes packet).capacity room

/-- The decoder with another frame in progress and another motion. -/
def moved (d : Decoder) (splitter : Splitter) (motion : Motion) : Decoder :=
  match d with
  | p128 s => p128 { s with splitter, motion }
  | qt128 s => qt128 { s with splitter, motion }
  | at128 s => at128 { s with splitter, motion }

/-- The azimuths of all returns fit 64 bits. Only firing times are large enough to make this
fail. -/
def AzimuthsFit (d : Decoder) (packet : Bytes) : Prop :=
  match d with
  | p128 _ | at128 _ => True
  | qt128 s => ∀ c contents, s.tables.calibration = some c →
      (QT128.format.packetOf packet).contents? = some contents →
      ∀ b i, (b, i) ∈ contents.blocks.zipIdx → ∀ j < b.returns.length,
        WordRange.int64.contains (s.tables.correctedAzimuth c (.ofBytes packet) contents.tail
          (contents.tail.loopIndex i) b.azimuth j)

/-- The packet is accepted: the frame in progress, the motion and the first points of the buffers
may change, and nothing else. -/
def Accepts (d : Decoder) (packet : Bytes) (out : Buffers) : Prop :=
  ∃ report splitter motion out',
    d.decode packet out = (.accepted report, d.moved splitter motion, out') ∧
      report.lasers = (Header.ofBytes packet).lasers ∧ out'.SameBehind report.pointCount out

/-- The packet ends with an azimuth that does not fit 64 bits. -/
def Overflows (d : Decoder) (packet : Bytes) (out : Buffers) : Prop :=
  ∃ azimuth, ¬WordRange.int64.contains azimuth ∧
    (d.decode packet out).1 = .aborted (.azimuthOverflow azimuth)

variable {packet : Bytes} {out : Buffers}

theorem channelCount?_p128 (s : State (Option AngleCorrection)) :
    (p128 s).channelCount? = (P128.family.correction? s.tables).map (·.elevations.size) := by
  simp [channelCount?, P128.family, P128.correction, Function.comp_def]

theorem channelCount?_qt128 (s : State QT128.Tables) :
    (qt128 s).channelCount? = (QT128.family.correction? s.tables).map (·.elevations.size) := by
  simp [channelCount?, QT128.family, QT128.Tables.correction, Function.comp_def]

theorem channelCount?_at128 (s : State (Option SweepCalibration)) :
    (at128 s).channelCount? = (AT128.family.correction? s.tables).map (·.elevations.size) := by
  simp [channelCount?, AT128.family, AT128.correction, Function.comp_def]

theorem needs_p128 (s : State (Option AngleCorrection)) :
    P128.family.Needs s packet ((p128 s).neededChannels (.ofBytes packet))
      ((p128 s).channelCount?.getD 0) := by
  intro c loaded
  obtain ⟨table, -, rfl⟩ := Option.map_eq_some_iff.1 loaded
  rw [channelCount?_p128, loaded]
  exact ⟨rfl, rfl⟩

theorem needs_qt128 (s : State QT128.Tables) :
    QT128.family.Needs s packet ((qt128 s).neededChannels (.ofBytes packet))
      ((qt128 s).channelCount?.getD 0) := by
  intro c loaded
  obtain ⟨table, -, rfl⟩ := Option.map_eq_some_iff.1 loaded
  rw [channelCount?_qt128, loaded]
  refine ⟨?_, rfl⟩
  change s.tables.needed _ = _
  rw [QT128.Tables.needed, QT128.Tables.configFor, neededChannels]
  cases s.tables.config <;> cases (Header.ofBytes packet).flags.selfDefine <;> rfl

theorem needs_at128 (s : State (Option SweepCalibration)) :
    AT128.family.Needs s packet ((at128 s).neededChannels (.ofBytes packet))
      ((at128 s).channelCount?.getD 0) := by
  intro c loaded
  obtain ⟨table, -, rfl⟩ := Option.map_eq_some_iff.1 loaded
  rw [channelCount?_at128, loaded]
  exact ⟨rfl, rfl⟩

theorem decode_of_refused {d : Decoder} {reason : Rejection}
    (refused : Test.complaint? (d.tests packet out.room) = some reason) :
    d.decode packet out = (.rejected reason, d, out) := by
  cases d with
  | p128 s => rw [decode, Family.decode_of_refused (needs_p128 s) refused]
  | qt128 s => rw [decode, Family.decode_of_refused (needs_qt128 s) refused]
  | at128 s => rw [decode, Family.decode_of_refused (needs_at128 s) refused]

theorem aimed_p128 {s : State (Option AngleCorrection)} {c : Correction P128.Tail}
    {contents : Contents P128.Tail}
    (admitted : P128.family.Admitted s packet out.room c contents) :
    Aimed (c.aim (.ofBytes packet) contents.tail) contents.blocks.zipIdx := by
  obtain ⟨table, -, rfl⟩ := Option.map_eq_some_iff.1 admitted.loaded
  intro b i listed a aim j hj
  obtain rfl := Option.some.inj aim
  have covered : (Header.ofBytes packet).laserCount ≤ table.channels.size :=
    Nat.le_trans admitted.covered (Nat.le_of_eq Array.size_map)
  rw [admitted.counts.2 b i listed] at hj
  exact ⟨_, Spinning.direction_eq (Nat.lt_of_lt_of_le hj covered) b.azimuth⟩

theorem aimed_at128 {s : State (Option SweepCalibration)} (sound : (at128 s).Sound)
    {c : Correction AT128.Tail} {contents : Contents AT128.Tail}
    (admitted : AT128.family.Admitted s packet out.room c contents) :
    Aimed (c.aim (.ofBytes packet) contents.tail) contents.blocks.zipIdx := by
  obtain ⟨table, loaded, rfl⟩ := Option.map_eq_some_iff.1 admitted.loaded
  intro b i listed a aim j hj
  obtain ⟨field, hfield, rfl⟩ := Option.map_eq_some_iff.1 aim
  have covered : (Header.ofBytes packet).laserCount ≤ table.channels.size :=
    Nat.le_trans admitted.covered (Nat.le_of_eq Array.size_map)
  rw [admitted.counts.2 b i listed] at hj
  exact AT128.exists_direction (sound table loaded) hfield (Nat.lt_of_lt_of_le hj covered)

theorem direction_qt128 {s : State QT128.Tables} {table : AngleCorrection}
    {contents : Contents QT128.Tail}
    (admitted : QT128.family.Admitted s packet out.room (s.tables.correction table) contents)
    {b : Block} {i j : Nat} (listed : (b, i) ∈ contents.blocks.zipIdx)
    (hj : j < b.returns.length) :
    let azimuth := s.tables.correctedAzimuth table (.ofBytes packet) contents.tail
      (contents.tail.loopIndex i) b.azimuth j
    ∃ elevation, s.tables.direction table (.ofBytes packet) contents.tail
        (contents.tail.loopIndex i) b.azimuth j =
      if WordRange.int64.contains azimuth then .ok { elevation, azimuth }
      else .error (.azimuthOverflow azimuth) := by
  have covered : s.tables.needed (.ofBytes packet) ≤ table.channels.size :=
    Nat.le_trans admitted.covered (Nat.le_of_eq Array.size_map)
  rw [admitted.counts.2 b i listed] at hj
  exact ⟨_, QT128.Tables.direction_eq (QT128.Tables.channel_lt covered hj) b.azimuth⟩

theorem azimuthsFit_iff_aimed {s : State QT128.Tables} {table : AngleCorrection}
    {contents : Contents QT128.Tail} (loaded : s.tables.calibration = some table)
    (admitted : QT128.family.Admitted s packet out.room (s.tables.correction table) contents) :
    (qt128 s).AzimuthsFit packet ↔
      Aimed ((s.tables.correction table).aim (.ofBytes packet) contents.tail)
        contents.blocks.zipIdx := by
  constructor
  · intro fit b i listed a aim j hj
    obtain rfl := Option.some.inj aim
    obtain ⟨elevation, directed⟩ := direction_qt128 admitted listed hj
    exact ⟨_, directed.trans (if_pos (fit table contents loaded admitted.read b i listed j hj))⟩
  · intro aimed table' contents' loaded' read' b i listed j hj
    obtain rfl := Option.some.inj (loaded.symm.trans loaded')
    obtain rfl := Option.some.inj (admitted.read.symm.trans read')
    obtain ⟨elevation, directed⟩ := direction_qt128 admitted listed hj
    obtain ⟨d, pointed⟩ := aimed b i listed _ rfl j hj
    by_contra outside
    rw [if_neg outside] at directed
    cases directed.symm.trans pointed

theorem decode_of_passed {d : Decoder} (sound : d.Sound)
    (passed : Test.complaint? (d.tests packet out.room) = none) :
    d.AzimuthsFit packet ∧ d.Accepts packet out ∨
      ¬d.AzimuthsFit packet ∧ d.Overflows packet out := by
  cases d with
  | p128 s =>
    obtain ⟨c, contents, admitted⟩ :=
      Family.exists_admitted P128.format_lawful (needs_p128 s) passed
    obtain ⟨report, splitter, motion, out', decoded, kept⟩ :=
      Family.decode_of_aimed (needs_p128 s) passed admitted (aimed_p128 admitted)
    refine .inl ⟨trivial, report, splitter, motion, out', ?_, kept⟩
    rw [decode, decoded]
    rfl
  | at128 s =>
    obtain ⟨c, contents, admitted⟩ :=
      Family.exists_admitted AT128.format_lawful (needs_at128 s) passed
    obtain ⟨report, splitter, motion, out', decoded, kept⟩ :=
      Family.decode_of_aimed (needs_at128 s) passed admitted (aimed_at128 sound admitted)
    refine .inl ⟨trivial, report, splitter, motion, out', ?_, kept⟩
    rw [decode, decoded]
    rfl
  | qt128 s =>
    obtain ⟨c, contents, admitted⟩ :=
      Family.exists_admitted QT128.format_lawful (needs_qt128 s) passed
    obtain ⟨table, loaded, rfl⟩ := Option.map_eq_some_iff.1 admitted.loaded
    have fit := azimuthsFit_iff_aimed loaded admitted
    by_cases aimed : Aimed ((s.tables.correction table).aim (.ofBytes packet) contents.tail)
        contents.blocks.zipIdx
    · obtain ⟨report, splitter, motion, out', decoded, kept⟩ :=
        Family.decode_of_aimed (needs_qt128 s) passed admitted aimed
      refine .inl ⟨fit.2 aimed, report, splitter, motion, out', ?_, kept⟩
      rw [decode, decoded]
      rfl
    · obtain ⟨b, i, a, j, fault, listed, aim, hj, failed, aborted⟩ :=
        Family.decode_of_not_aimed (needs_qt128 s) passed admitted aimed
      obtain rfl := Option.some.inj aim
      obtain ⟨elevation, directed⟩ := direction_qt128 admitted listed hj
      have same := directed.symm.trans failed
      split_ifs at same with fits
      cases same
      exact .inr ⟨fun all => aimed (fit.1 all), _, fits, by rw [decode, ← aborted]⟩

theorem exists_accepted {d : Decoder} (sound : d.Sound)
    (passed : Test.complaint? (d.tests packet out.room) = none) (fit : d.AzimuthsFit packet) :
    ∃ report, (d.decode packet out).1 = .accepted report := by
  rcases decode_of_passed sound passed with ⟨-, report, _, _, _, decoded, -⟩ | ⟨unfit, -⟩
  · exact ⟨report, congrArg Prod.fst decoded⟩
  · exact absurd fit unfit

/-- The first test that fails is the answer, and then nothing changes. A packet that passes them all
is accepted if and only if its azimuths fit 64 bits. -/
theorem decode_decided_by_tests (m : Model) (ops : List Operation) (packet : Bytes)
    (out : Buffers) :
    let d := (ofModel m).after ops
    match Test.complaint? (d.tests packet out.room) with
    | some reason => d.decode packet out = (.rejected reason, d, out)
    | none => (d.AzimuthsFit packet → d.Accepts packet out) ∧
        (¬d.AzimuthsFit packet → d.Overflows packet out) := by
  intro d
  have sound : d.Sound := sound_after m ops
  split
  · next reason refused => exact decode_of_refused refused
  · next passed =>
    rcases decode_of_passed sound passed with ⟨fit, accepts⟩ | ⟨unfit, overflows⟩
    · exact ⟨fun _ => accepts, fun unfit => absurd fit unfit⟩
    · exact ⟨fun fit => absurd fit unfit, fun _ => overflows⟩

def oneLaser : Bytes := .ofText ['1', ',', '0', ',', '0']

theorem parse_oneLaser :
    AngleCorrection.parse oneLaser QT128.channelLimit = .ok ⟨#[⟨0, 0⟩]⟩ := by
  rw [AngleCorrection.parse, oneLaser, Text.ofBlob_ofText]
  decide +kernel

theorem parse_of_oneLaser {m : Model} (spinning : m ≠ .at128) :
    Calibration.parse m oneLaser = .ok (.angles ⟨#[⟨0, 0⟩]⟩) := by
  cases m with
  | p128 | qt128 => exact congrArg (Except.map Calibration.angles) parse_oneLaser
  | at128 => exact absurd rfl spinning

/-- A new decoder with one laser. -/
theorem parts_of_oneLaser {m : Model} (spinning : m ≠ .at128) :
    ((ofModel m).after [.loadCalibration oneLaser]).parts =
      { (ofModel m).parts with calibration := some (.angles ⟨#[⟨0, 0⟩]⟩) } := by
  have parsed : Loaded.parse (ofModel m).model oneLaser .calibration =
      .ok (.calibration (.angles ⟨#[⟨0, 0⟩]⟩)) := by
    rw [model_ofModel, Loaded.parse, parse_of_oneLaser spinning]
    rfl
  obtain ⟨e, loaded, same⟩ := load_of_parsed .calibration parsed
  rw [after, List.foldl_cons, List.foldl_nil, apply, loaded]
  exact same

/-- One loop, in which the first laser never fires. -/
def endlessTimes : Bytes :=
  .ofText (['E', 'E', 'F', 'F', '\n', ',', ',', ',', '1', '\n', 'x', '\n'] ++
    (List.replicate 128 ['1', ',', 'i', 'n', 'f', '\n']).flatten)

theorem parse_endlessTimes : ∃ f, FireTimes.parse endlessTimes = .ok f ∧
    f.azimuthOffset 0 0 257 = 9223372036854775807 := by
  have offset : (FireTimes.parse endlessTimes).toOption.map (·.azimuthOffset 0 0 257) =
      some 9223372036854775807 := by
    rw [FireTimes.parse, endlessTimes, Text.ofBlob_ofText]
    decide +kernel
  cases parsed : FireTimes.parse endlessTimes with
  | error e =>
    rw [parsed] at offset
    cases offset
  | ok f =>
    rw [parsed] at offset
    exact ⟨f, rfl, Option.some.inj offset⟩

/-- One block of one laser, with all fields behind the header bytes of one. -/
def onesPacket : Bytes :=
  #[0xEE, 0xFF, 3, 2, 0, 0, 1, 1, 0, 4, 1, 0] ++ Array.replicate 39 1

def onesContents : Contents QT128.Tail where
  blocks := [⟨257, 0, [⟨257, 1⟩]⟩]
  tail := {
    reserved1 := #v[1, 1, 1], reserved2 := #v[1, 1], modeFlag := 1, reserved3 := #v[1, 1, 1]
    azimuthFlag := 257, workingMode := 1, returnMode := 1, motorSpeed := 257
    utc := #v[1, 1, 1, 1, 1, 1], timestamp := 0x01010101, factoryInfo := 1 }
  sequence := none
  imu := none

theorem contents_onesPacket :
    (QT128.format.packetOf onesPacket).contents? = some onesContents := by
  decide +kernel

/-- A new decoder with some angles and some firing times. -/
def equipped (c : AngleCorrection) (f : FireTimes) : Decoder :=
  qt128 { QT128.family.initial with tables := { calibration := some c, fireTimes := some f } }

theorem after_loads {angles blob : Bytes} {c : AngleCorrection} {f : FireTimes}
    (read : AngleCorrection.parse angles QT128.channelLimit = .ok c)
    (parsed : FireTimes.parse blob = .ok f) :
    (ofModel .qt128).after [.loadCalibration angles, .loadFireTimes blob] = equipped c f := by
  rw [after, List.foldl_cons, List.foldl_cons, List.foldl_nil, apply, ofModel, load, read]
  dsimp only [install]
  rw [apply, load, parsed]
  rfl

def timed (f : FireTimes) : Decoder := equipped ⟨#[⟨0, 0⟩]⟩ f

theorem not_azimuthsFit_timed {f : FireTimes}
    (offset : f.azimuthOffset 0 0 257 = 9223372036854775807) :
    ¬(timed f).AzimuthsFit onesPacket := by
  intro fit
  have fits := fit ⟨#[⟨0, 0⟩]⟩ _ rfl contents_onesPacket ⟨257, 0, [⟨257, 1⟩]⟩ 0
    List.mem_cons_self 0 Nat.one_pos
  change WordRange.int64.contains (10 * 257 + 0 + f.azimuthOffset 0 0 257) = true at fits
  rw [offset] at fits
  exact absurd fits Bool.false_ne_true

theorem overflows_with_endlessTimes :
    let d := (ofModel .qt128).after [.loadCalibration oneLaser, .loadFireTimes endlessTimes]
    Test.complaint? (d.tests onesPacket (Buffers.blank 1).room) = none ∧
      d.Overflows onesPacket (Buffers.blank 1) := by
  obtain ⟨f, parsed, offset⟩ := parse_endlessTimes
  have sound : (timed f).Sound := trivial
  have passed : Test.complaint? ((timed f).tests onesPacket (Buffers.blank 1).room) = none := rfl
  rw [after_loads parse_oneLaser parsed]
  refine ⟨passed, ?_⟩
  rcases decode_of_passed sound passed with ⟨fit, -⟩ | ⟨-, overflows⟩
  · exact absurd fit (not_azimuthsFit_timed offset)
  · exact overflows

end Decoder

end Lidar
