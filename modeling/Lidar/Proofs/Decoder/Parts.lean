import Lidar.Proofs.Decoder.Runs

namespace Lidar.Decoder

/-- What tells a decoder how its channels point. -/
inductive Calibration where
  | angles (c : AngleCorrection)
  | sweep (c : SweepCalibration)

namespace Calibration

/-- The calibration in a blob, by the parser of the model. -/
def parse (m : Model) (blob : Bytes) : Except LoadError Calibration :=
  match m with
  | .p128 => (AngleCorrection.parse blob P128.channelLimit).map angles
  | .qt128 => (AngleCorrection.parse blob QT128.channelLimit).map angles
  | .at128 => (SweepCalibration.parse blob).map sweep

end Calibration

/-- All there is to a decoder. -/
structure Parts where
  model : Model
  calibration : Option Calibration
  config : Option ChannelConfig
  fireTimes : Option FireTimes
  /-- None for the models without this switch. -/
  fireTimeCorrection : Option Bool
  splitter : Splitter
  /-- Motor speed and return mode of the last packet. -/
  motion : Motion

def parts : Decoder → Parts
  | p128 s =>
    { model := .p128, calibration := s.tables.map .angles, config := none, fireTimes := none
      fireTimeCorrection := none, splitter := s.splitter, motion := s.motion }
  | qt128 s =>
    { model := .qt128, calibration := s.tables.calibration.map .angles
      config := s.tables.config, fireTimes := s.tables.fireTimes
      fireTimeCorrection := some s.tables.fireTimeCorrection
      splitter := s.splitter, motion := s.motion }
  | at128 s =>
    { model := .at128, calibration := s.tables.map .sweep, config := none, fireTimes := none
      fireTimeCorrection := none, splitter := s.splitter, motion := s.motion }

theorem angles_injective : Function.Injective Calibration.angles :=
  fun _ _ => Calibration.angles.inj

theorem sweep_injective : Function.Injective Calibration.sweep := fun _ _ => Calibration.sweep.inj

/-- Nothing of a decoder is left out. -/
theorem parts_injective : Function.Injective parts := by
  intro d e same
  have models := congrArg Parts.model same
  have calibrations := congrArg Parts.calibration same
  have splitters := congrArg Parts.splitter same
  have motions := congrArg Parts.motion same
  rcases d with ⟨t, sp, mo⟩ | ⟨⟨c, g, f, on⟩, sp, mo⟩ | ⟨t, sp, mo⟩ <;>
    rcases e with ⟨t', sp', mo'⟩ | ⟨⟨c', g', f', on'⟩, sp', mo'⟩ | ⟨t', sp', mo'⟩ <;>
    cases models <;> cases splitters <;> cases motions
  · obtain rfl := Option.map_injective angles_injective calibrations
    rfl
  · obtain rfl := Option.map_injective angles_injective calibrations
    obtain rfl := congrArg Parts.config same
    obtain rfl := congrArg Parts.fireTimes same
    obtain rfl := Option.some.inj (congrArg Parts.fireTimeCorrection same)
    rfl
  · obtain rfl := Option.map_injective sweep_injective calibrations
    rfl

theorem isCalibrated_iff {d : Decoder} : d.isCalibrated = d.parts.calibration.isSome := by
  cases d <;> simp [isCalibrated, Family.isCalibrated, parts, P128.family, QT128.family,
    AT128.family]

/-- A table as it comes out of a parser. -/
inductive Loaded where
  | calibration (c : Calibration)
  | channelConfig (c : ChannelConfig)
  | fireTimes (f : FireTimes)

/-- The table in a blob. Only one model knows the auxiliary ones. -/
def Loaded.parse (m : Model) (blob : Bytes) : Table → Except LoadError Loaded
  | .calibration => (Calibration.parse m blob).map calibration
  | .channelConfig =>
    if m = .qt128 then (ChannelConfig.parse blob).map channelConfig
    else .error (.notSupported .channelConfig)
  | .fireTimes =>
    if m = .qt128 then (FireTimes.parse blob).map fireTimes
    else .error (.notSupported .fireTimes)

/-- The parts with one table replaced. -/
def Parts.set (p : Parts) : Loaded → Parts
  | .calibration c => { p with calibration := some c }
  | .channelConfig c => { p with config := some c }
  | .fireTimes f => { p with fireTimes := some f }

theorem Parts.splitter_set (p : Parts) (l : Loaded) : (p.set l).splitter = p.splitter := by
  cases l <;> rfl

def Operation.load (blob : Bytes) : Table → Operation
  | .calibration => loadCalibration blob
  | .channelConfig => loadChannelConfig blob
  | .fireTimes => loadFireTimes blob

theorem apply_load (d : Decoder) (blob : Bytes) (table : Table) :
    d.apply (.load blob table) = (d.load blob table).decoder := by
  cases table <;> rfl

theorem install_cases {α : Type} {d : Decoder} {read : Except LoadError α} {put : α → Decoder}
    {wrap : α → Loaded} {parsed : Except LoadError Loaded} (same : parsed = read.map wrap)
    (puts : ∀ x, (put x).parts = d.parts.set (wrap x)) :
    (∃ x, parsed = .error x ∧ d.install read put = { outcome := .error x, decoder := d }) ∨
      ∃ l e, parsed = .ok l ∧ d.install read put = { outcome := .ok (), decoder := e } ∧
        e.parts = d.parts.set l := by
  subst same
  cases read with
  | error x => exact .inl ⟨x, rfl, rfl⟩
  | ok x => exact .inr ⟨wrap x, put x, rfl, rfl, puts x⟩

/-- A load parses the blob and puts the table into its place; a blob that is refused leaves the
decoder as it was. -/
theorem load_cases (d : Decoder) (blob : Bytes) (table : Table) :
    (∃ x, Loaded.parse d.model blob table = .error x ∧
      d.load blob table = { outcome := .error x, decoder := d }) ∨
    ∃ l e, Loaded.parse d.model blob table = .ok l ∧
      d.load blob table = { outcome := .ok (), decoder := e } ∧ e.parts = d.parts.set l := by
  cases table with
  | calibration =>
    cases d with
    | p128 s | qt128 s | at128 s => exact install_cases (map_map _ _ _) fun _ => rfl
  | channelConfig =>
    cases d with
    | p128 s | at128 s => exact .inl ⟨_, rfl, rfl⟩
    | qt128 s => exact install_cases rfl fun _ => rfl
  | fireTimes =>
    cases d with
    | p128 s | at128 s => exact .inl ⟨_, rfl, rfl⟩
    | qt128 s => exact install_cases rfl fun _ => rfl

theorem load_of_refused {d : Decoder} {blob : Bytes} (table : Table) {x : LoadError}
    (refused : Loaded.parse d.model blob table = .error x) :
    d.load blob table = { outcome := .error x, decoder := d } := by
  rcases load_cases d blob table with ⟨y, failed, loaded⟩ | ⟨l, e, parsed, -⟩
  · obtain rfl := Except.error.inj (refused.symm.trans failed)
    exact loaded
  · cases refused.symm.trans parsed

theorem load_of_parsed {d : Decoder} {blob : Bytes} (table : Table) {l : Loaded}
    (parsed : Loaded.parse d.model blob table = .ok l) :
    ∃ e, d.load blob table = { outcome := .ok (), decoder := e } ∧ e.parts = d.parts.set l := by
  rcases load_cases d blob table with ⟨x, failed, -⟩ | ⟨l', e, parsed', loaded, same⟩
  · cases parsed.symm.trans failed
  · obtain rfl := Except.ok.inj (parsed.symm.trans parsed')
    exact ⟨e, loaded, same⟩

section Runs

theorem calibration_set {m : Model} {blob : Bytes} {table : Table} {l : Loaded}
    (parsed : Loaded.parse m blob table = .ok l) (p : Parts) :
    (p.set l).calibration = p.calibration ∨
      ∃ c, Calibration.parse m blob = .ok c ∧ (p.set l).calibration = some c := by
  cases table with
  | calibration =>
    obtain ⟨c, given, rfl⟩ := map_eq_ok_iff.1 parsed
    exact .inr ⟨c, given, rfl⟩
  | channelConfig =>
    rw [Loaded.parse] at parsed
    split_ifs at parsed
    obtain ⟨g, -, rfl⟩ := map_eq_ok_iff.1 parsed
    exact .inl rfl
  | fireTimes =>
    rw [Loaded.parse] at parsed
    split_ifs at parsed
    obtain ⟨f, -, rfl⟩ := map_eq_ok_iff.1 parsed
    exact .inl rfl

theorem model_set (p : Parts) (l : Loaded) : (p.set l).model = p.model := by
  cases l <;> rfl

theorem model_parts (d : Decoder) : d.parts.model = d.model := by
  cases d <;> rfl

/-- A load is either for nothing or replaces a table by one that was parsed. -/
theorem parts_apply_load (d : Decoder) (blob : Bytes) (table : Table) :
    (d.apply (.load blob table)).parts = d.parts ∨
      ∃ l, Loaded.parse d.model blob table = .ok l ∧
        (d.apply (.load blob table)).parts = d.parts.set l := by
  rw [apply_load]
  rcases load_cases d blob table with ⟨x, -, failed⟩ | ⟨l, e, parsed, loaded, same⟩
  · exact .inl (by rw [failed])
  · exact .inr ⟨l, parsed, by rw [loaded, same]⟩

theorem calibration_decode (d : Decoder) (packet : Bytes) (out : Buffers) :
    (d.decode packet out).2.1.parts.calibration = d.parts.calibration := by
  cases d with
  | p128 s =>
    exact congrArg (Option.map Calibration.angles) (P128.family.decode_tables s packet out)
  | qt128 s =>
    exact congrArg (fun t : QT128.Tables => t.calibration.map Calibration.angles)
      (QT128.family.decode_tables s packet out)
  | at128 s =>
    exact congrArg (Option.map Calibration.sweep) (AT128.family.decode_tables s packet out)

/-- The decoder has kept its model, and its calibration is the one it had or one that was parsed. -/
structure Follows (d e : Decoder) : Prop where
  model : e.model = d.model
  calibration : e.parts.calibration = d.parts.calibration ∨
    ∃ blob c, Calibration.parse d.model blob = .ok c ∧ e.parts.calibration = some c

theorem follows_load (d : Decoder) (blob : Bytes) (table : Table) :
    d.Follows (d.apply (.load blob table)) := by
  rcases parts_apply_load d blob table with same | ⟨l, parsed, same⟩
  · rw [parts_injective same]
    exact ⟨rfl, .inl rfl⟩
  · constructor
    · rw [← model_parts, same, model_set, model_parts]
    · rw [same]
      rcases calibration_set parsed d.parts with kept | ⟨c, given, there⟩
      · exact .inl kept
      · exact .inr ⟨blob, c, given, there⟩

theorem follows_apply (d : Decoder) (op : Operation) : d.Follows (d.apply op) := by
  cases op with
  | loadCalibration blob => exact follows_load d blob .calibration
  | loadChannelConfig blob => exact follows_load d blob .channelConfig
  | loadFireTimes blob => exact follows_load d blob .fireTimes
  | setFireTimeCorrection on => cases d <;> exact ⟨rfl, .inl rfl⟩
  | reset => cases d <;> exact ⟨rfl, .inl rfl⟩
  | decode packet out => exact ⟨by cases d <;> rfl, .inl (calibration_decode d packet out)⟩

theorem model_after (d : Decoder) (ops : List Operation) : (d.after ops).model = d.model := by
  induction ops generalizing d with
  | nil => rfl
  | cons op ops ih => exact (ih (d.apply op)).trans (follows_apply d op).model

/-- What holds of every calibration that the parser of a model accepts holds of the one that is
loaded after any operations. -/
theorem calibration_after {P : Calibration → Prop} {d : Decoder}
    (parsed : ∀ blob c, Calibration.parse d.model blob = .ok c → P c)
    (start : ∀ c, d.parts.calibration = some c → P c) (ops : List Operation) :
    ∀ c, (d.after ops).parts.calibration = some c → P c := by
  induction ops generalizing d with
  | nil => exact start
  | cons op ops ih =>
    obtain ⟨model, calibration⟩ := follows_apply d op
    refine ih (d := d.apply op) ?_ ?_
    · rw [model]
      exact parsed
    · intro c loaded
      rcases calibration with kept | ⟨blob, c', given, there⟩
      · exact start c (kept.symm.trans loaded)
      · obtain rfl := Option.some.inj (there.symm.trans loaded)
        exact parsed blob c' given

theorem parts_ofModel_calibration (m : Model) : (ofModel m).parts.calibration = none := by
  cases m <;> rfl

theorem model_ofModel (m : Model) : (ofModel m).model = m := by
  cases m <;> rfl

theorem sound_iff {d : Decoder} :
    d.Sound ↔ ∀ c, d.parts.calibration = some (.sweep c) → c.Filled := by
  cases d with
  | p128 s | qt128 s => simp [Sound, parts]
  | at128 s => simp [Sound, parts]

theorem filled_of_calibration_parse {m : Model} {blob : Bytes} {c : SweepCalibration}
    (parsed : Calibration.parse m blob = .ok (.sweep c)) : c.Filled := by
  cases m with
  | p128 | qt128 =>
    obtain ⟨a, -, other⟩ := map_eq_ok_iff.1 parsed
    cases other
  | at128 =>
    obtain ⟨s, read, same⟩ := map_eq_ok_iff.1 parsed
    obtain rfl := Calibration.sweep.inj same
    exact SweepCalibration.filled_of_parse read

theorem sound_after (m : Model) (ops : List Operation) : ((ofModel m).after ops).Sound := by
  rw [sound_iff]
  intro c loaded
  refine calibration_after (P := fun c => ∀ s, c = .sweep s → s.Filled) ?_ ?_ ops _ loaded c rfl
  · rintro blob _ parsed s rfl
    exact filled_of_calibration_parse parsed
  · intro c loaded
    rw [parts_ofModel_calibration] at loaded
    cases loaded

end Runs

end Lidar.Decoder
