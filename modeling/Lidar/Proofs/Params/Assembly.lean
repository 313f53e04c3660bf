import Lidar.Params
import Lidar.Proofs.Decoder.Fallback

namespace Lidar.Params

open Decoder (Calibration Table Loaded)

variable {p q : Params} {files files' : Files} {m : Model} {d e : Decoder}

/-- A path is set, its file is there, and the parser accepts what it holds. -/
def Holds {α : Type} (files : Files) (path : Option String) (parse : Bytes → Except LoadError α)
    (x : α) : Prop :=
  ∃ name blob, path = some name ∧ files name = some blob ∧ parse blob = .ok x

/-- Why there is no decoder for some settings. -/
inductive Fails (p : Params) (files : Files) : ParamsError → Prop where
  | noModel (unset : p.model = none) : Fails p files .noModel
  | missing {m : Model} {path : String} (model : p.model = some m)
      (correction : p.correctionFile = some path) (absent : files path = none) :
      Fails p files (.calibration (.unavailable .notFound))
  | refused {m : Model} {path : String} {blob : Bytes} {x : LoadError} (model : p.model = some m)
      (correction : p.correctionFile = some path) (present : files path = some blob)
      (refused : Calibration.parse m blob = .error x) : Fails p files (.calibration x)

/-- A new decoder but for the tables from the files. -/
structure Assembled (p : Params) (files : Files) (d : Decoder) : Prop where
  model : p.model = some d.model
  calibration : ∀ c, d.parts.calibration = some c ↔
    Holds files p.correctionFile (Calibration.parse d.model) c
  calibrated : p.correctionFile.isSome → d.parts.calibration.isSome
  config : ∀ g, d.parts.config = some g ↔
    d.model = .qt128 ∧ Holds files p.channelConfigFile ChannelConfig.parse g
  fireTimes : ∀ f, d.parts.fireTimes = some f ↔
    d.model = .qt128 ∧ Holds files p.fireTimesFile FireTimes.parse f
  fireTimeCorrection :
    d.parts.fireTimeCorrection = (Decoder.ofModel d.model).parts.fireTimeCorrection
  splitter : d.parts.splitter = (Decoder.ofModel d.model).parts.splitter
  motion : d.parts.motion = (Decoder.ofModel d.model).parts.motion

theorem Holds.unique {α : Type} {path : Option String} {parse : Bytes → Except LoadError α}
    {x y : α} (hx : Holds files path parse x) (hy : Holds files path parse y) : x = y := by
  obtain ⟨name, blob, set, present, parsed⟩ := hx
  obtain ⟨name', blob', set', present', parsed'⟩ := hy
  obtain rfl := Option.some.inj (set.symm.trans set')
  obtain rfl := Option.some.inj (present.symm.trans present')
  exact Except.ok.inj (parsed.symm.trans parsed')

/-- Settings and files leave no choice. -/
theorem Assembled.unique (hd : p.Assembled files d) (he : p.Assembled files e) : d = e := by
  have model : d.model = e.model := Option.some.inj (hd.model.symm.trans he.model)
  apply Decoder.parts_injective
  have parts : d.parts.model = e.parts.model := by
    rw [Decoder.model_parts, model, Decoder.model_parts]
  have calibration : d.parts.calibration = e.parts.calibration := by
    apply Option.ext
    intro c
    rw [hd.calibration, he.calibration, model]
  have config : d.parts.config = e.parts.config := by
    apply Option.ext
    intro g
    rw [hd.config, he.config, model]
  have fireTimes : d.parts.fireTimes = e.parts.fireTimes := by
    apply Option.ext
    intro f
    rw [hd.fireTimes, he.fireTimes, model]
  have correction := hd.fireTimeCorrection.trans (model ▸ he.fireTimeCorrection.symm)
  have splitter := hd.splitter.trans (model ▸ he.splitter.symm)
  have motion := hd.motion.trans (model ▸ he.motion.symm)
  generalize d.parts = a at *
  generalize e.parts = b at *
  cases a
  cases b
  simp_all

/-- The decoder with the calibration of the correction file, if there is to be one. -/
def corrected (p : Params) (files : Files) (m : Model) : Except LoadError Decoder :=
  match p.correctionFile with
  | none => .ok (.ofModel m)
  | some path => ((Decoder.ofModel m).loadFetched (files.read path)).result

/-- A decoder with the auxiliary tables that its model has a use for. -/
def completed (p : Params) (files : Files) (d : Decoder) : Decoder :=
  if d.model = .qt128 then
    d |> withAuxiliary files .channelConfig p.channelConfigFile
      |> withAuxiliary files .fireTimes p.fireTimesFile
  else d

/-- A search through a single file ends as its loading does. -/
theorem result_loadCalibrationFrom_file (files : Files) (d : Decoder) (path : String) :
    (d.loadCalibrationFrom files [.file path]).result =
      (d.loadFetched (files.read path)).result := by
  rw [Decoder.loadCalibrationFrom, Decoder.search, CalibrationSource.fetch]
  generalize d.loadFetched (files.read path) = tried
  obtain ⟨outcome, e⟩ := tried
  cases outcome <;> rfl

/-- What is known of a decoder with the calibration of the correction file. -/
structure IsCorrected (p : Params) (files : Files) (m : Model) (d : Decoder) : Prop where
  others : ∃ calibration, d.parts = { (Decoder.ofModel m).parts with calibration }
  calibration : ∀ c, d.parts.calibration = some c ↔
    Holds files p.correctionFile (Calibration.parse m) c
  calibrated : p.correctionFile.isSome → d.parts.calibration.isSome

theorem isCorrected_of_corrected (made : p.corrected files m = .ok d) :
    p.IsCorrected files m d := by
  rw [corrected] at made
  cases set : p.correctionFile with
  | none =>
    rw [set] at made
    obtain rfl := Except.ok.inj made
    have none := Decoder.parts_ofModel_calibration m
    refine ⟨⟨_, rfl⟩, ?_, by simp [set]⟩
    intro c
    simp [none, Holds, set]
  | some path =>
    rw [set] at made
    dsimp only at made
    obtain ⟨c, usable, same⟩ : ∃ c, (CalibrationSource.file path).calibration files m = .ok c ∧
        d.parts = (Decoder.ofModel m).parts.recalibrated c := by
      cases had : (CalibrationSource.file path).calibration files m with
      | error x =>
        have failed := Decoder.loadFetched_of_unusable (d := Decoder.ofModel m)
          (by rw [Decoder.model_ofModel]; exact had)
        rw [CalibrationSource.fetch] at failed
        rw [failed] at made
        cases made
      | ok c =>
        obtain ⟨e, loaded, same⟩ := Decoder.loadFetched_of_usable (d := Decoder.ofModel m)
          (by rw [Decoder.model_ofModel]; exact had)
        rw [CalibrationSource.fetch] at loaded
        rw [loaded] at made
        obtain rfl := Except.ok.inj made
        exact ⟨c, rfl, same⟩
    have there : d.parts.calibration = some c := by
      rw [same]
      rfl
    have holds : Holds files p.correctionFile (Calibration.parse m) c := by
      rw [CalibrationSource.calibration, CalibrationSource.fetch, Files.read] at usable
      cases present : files path with
      | none =>
        rw [present] at usable
        cases usable
      | some blob =>
        rw [present] at usable
        exact ⟨path, blob, set, present, usable⟩
    refine ⟨⟨some c, same⟩, ?_, fun _ => by rw [there]; rfl⟩
    intro c'
    rw [there]
    constructor
    · intro other
      exact Option.some.inj other ▸ holds
    · intro other
      rw [holds.unique other]

theorem fails_of_corrected {x : LoadError} (set : p.model = some m)
    (failed : p.corrected files m = .error x) : p.Fails files (.calibration x) := by
  rw [corrected] at failed
  cases file : p.correctionFile with
  | none =>
    rw [file] at failed
    cases failed
  | some path =>
    rw [file] at failed
    dsimp only at failed
    rw [Files.read] at failed
    cases present : files path with
    | none =>
      rw [present] at failed
      obtain rfl := Except.error.inj failed
      exact .missing set file present
    | some blob =>
      rw [present] at failed
      rcases Decoder.load_cases (Decoder.ofModel m) blob .calibration with
        ⟨y, refused, loaded⟩ | ⟨l, e, -, loaded, -⟩
      · have same : ((Decoder.ofModel m).load blob .calibration).result = .error x := failed
        rw [loaded] at same
        obtain rfl := Except.error.inj same
        rw [Decoder.model_ofModel] at refused
        exact .refused set file present (map_eq_error_iff.1 refused)
      · have same : ((Decoder.ofModel m).load blob .calibration).result = .error x := failed
        rw [loaded] at same
        cases same

/-- What an auxiliary file has for a parser. -/
def held? {α : Type} (files : Files) (path : Option String)
    (parse : Bytes → Except LoadError α) : Option α :=
  (path.bind files).bind fun blob => (parse blob).toOption

theorem held?_eq_some_iff {α : Type} {path : Option String} {parse : Bytes → Except LoadError α}
    {x : α} : held? files path parse = some x ↔ Holds files path parse x := by
  have toOption_eq {r : Except LoadError α} : r.toOption = some x ↔ r = .ok x := by
    cases r <;> simp [Except.toOption]
  simp only [held?, Option.bind_eq_some_iff, toOption_eq, Holds]
  constructor
  · rintro ⟨blob, ⟨name, set, present⟩, parsed⟩
    exact ⟨name, blob, set, present, parsed⟩
  · rintro ⟨name, blob, set, present, parsed⟩
    exact ⟨blob, ⟨name, set, present⟩, parsed⟩

/-- An auxiliary file that is there and accepted puts its table into its place; any other does
nothing. -/
theorem parts_withAuxiliary {α : Type} {table : Table} {parse : Bytes → Except LoadError α}
    {wrap : α → Loaded} (reads : ∀ blob, Loaded.parse d.model blob table = (parse blob).map wrap)
    (path : Option String) : (withAuxiliary files table path d).parts =
      (held? files path parse).elim d.parts fun x => d.parts.set (wrap x) := by
  rw [withAuxiliary, held?]
  cases path.bind files with
  | none => rfl
  | some blob =>
    rw [Option.bind_some]
    cases parsed : parse blob with
    | error x =>
      dsimp only
      rw [Decoder.load_of_refused table ((reads blob).trans (map_eq_error_iff.2 parsed))]
      rfl
    | ok x =>
      obtain ⟨e, loaded, same⟩ :=
        Decoder.load_of_parsed table ((reads blob).trans (map_eq_ok_iff.2 ⟨x, parsed, rfl⟩))
      dsimp only
      rw [loaded]
      exact same

theorem parts_completed (used : d.model = .qt128) : (p.completed files d).parts =
    { d.parts with
      config := (held? files p.channelConfigFile ChannelConfig.parse).or d.parts.config
      fireTimes := (held? files p.fireTimesFile FireTimes.parse).or d.parts.fireTimes } := by
  have configured : (withAuxiliary files .channelConfig p.channelConfigFile d).parts =
      { d.parts with
        config := (held? files p.channelConfigFile ChannelConfig.parse).or d.parts.config } := by
    have reads (blob : Bytes) : Loaded.parse d.model blob .channelConfig =
        (ChannelConfig.parse blob).map .channelConfig := if_pos used
    refine (parts_withAuxiliary reads p.channelConfigFile).trans ?_
    cases held? files p.channelConfigFile ChannelConfig.parse <;> rfl
  rw [completed, if_pos used]
  generalize withAuxiliary files .channelConfig p.channelConfigFile d = d' at *
  have model : d'.model = .qt128 := by
    rw [← Decoder.model_parts, configured, ← used]
    exact Decoder.model_parts d
  have reads (blob : Bytes) : Loaded.parse d'.model blob .fireTimes =
      (FireTimes.parse blob).map .fireTimes := if_pos model
  refine (parts_withAuxiliary reads p.fireTimesFile).trans ?_
  rw [configured]
  cases held? files p.fireTimesFile FireTimes.parse <;> rfl

theorem IsCorrected.model (made : p.IsCorrected files m d) : d.model = m := by
  obtain ⟨calibration, others⟩ := made.others
  rw [← Decoder.model_parts, others]
  exact (Decoder.model_parts _).trans (Decoder.model_ofModel m)

theorem decoder_of_corrected (set : p.model = some m) : p.decoder files =
    match p.corrected files m with
    | .error x => .error (.calibration x)
    | .ok d => .ok (p.completed files d) := by
  have finish (d : Decoder) (model : d.model = m) :
      (if m ≠ .qt128 then (pure d : Except ParamsError Decoder)
      else pure (withAuxiliary files .fireTimes p.fireTimesFile
        (withAuxiliary files .channelConfig p.channelConfigFile d))) =
      .ok (p.completed files d) := by
    rw [completed, model]
    by_cases used : m = .qt128
    · rw [if_neg (not_not.2 used), if_pos used]
      rfl
    · rw [if_pos used, if_neg used]
      rfl
  have corrects (d : Decoder) (made : p.corrected files m = .ok d) : d.model = m :=
    (isCorrected_of_corrected made).model
  rw [corrected] at corrects ⊢
  rw [decoder, set]
  cases file : p.correctionFile with
  | none =>
    rw [file] at corrects
    exact finish _ (corrects _ rfl)
  | some path =>
    rw [file] at corrects
    dsimp only at corrects ⊢
    rw [result_loadCalibrationFrom_file]
    cases made : ((Decoder.ofModel m).loadFetched (files.read path)).result with
    | error x => rfl
    | ok d => exact finish d (corrects d made)

theorem assembled_of_isCorrected (set : p.model = some m) (made : p.IsCorrected files m d) :
    p.Assembled files (p.completed files d) := by
  obtain ⟨calibration, others⟩ := made.others
  have model := made.model
  have fresh : d.parts.config = none ∧ d.parts.fireTimes = none ∧
      d.parts.fireTimeCorrection = (Decoder.ofModel m).parts.fireTimeCorrection ∧
      d.parts.splitter = (Decoder.ofModel m).parts.splitter ∧
      d.parts.motion = (Decoder.ofModel m).parts.motion := by
    rw [others]
    cases m <;> exact ⟨rfl, rfl, rfl, rfl, rfl⟩
  obtain ⟨config, fireTimes, correction, splitter, motion⟩ := fresh
  by_cases used : m = .qt128
  · have parts : (p.completed files d).parts = _ := parts_completed (model.trans used)
    have kept : (p.completed files d).model = m := by
      rw [← Decoder.model_parts, parts, ← model]
      exact Decoder.model_parts d
    rw [config, fireTimes, Option.or_none, Option.or_none] at parts
    constructor
    · rw [kept, set]
    · rw [kept, parts]
      exact made.calibration
    · rw [parts]
      exact made.calibrated
    · intro g
      rw [kept, parts, held?_eq_some_iff]
      exact (and_iff_right used).symm
    · intro f
      rw [kept, parts, held?_eq_some_iff]
      exact (and_iff_right used).symm
    · rw [kept, parts]
      exact correction
    · rw [kept, parts]
      exact splitter
    · rw [kept, parts]
      exact motion
  · have same : p.completed files d = d := by rw [completed, if_neg (model ▸ used)]
    rw [same]
    constructor
    · rw [model, set]
    · rw [model]
      exact made.calibration
    · exact made.calibrated
    · intro g
      rw [config, model]
      simp [used]
    · intro f
      rw [fireTimes, model]
      simp [used]
    · rw [model, correction]
    · rw [model, splitter]
    · rw [model, motion]

/-- Either there is a reason why there is no decoder, or there is the decoder. -/
theorem fails_or_assembled (p : Params) (files : Files) :
    (∃ e, p.decoder files = .error e ∧ p.Fails files e) ∨
      ∃ d, p.decoder files = .ok d ∧ p.Assembled files d := by
  cases set : p.model with
  | none =>
    have failed : p.decoder files = .error .noModel := by
      rw [decoder, set]
      rfl
    exact .inl ⟨_, failed, .noModel set⟩
  | some m =>
    have corrects : p.decoder files = _ := decoder_of_corrected set
    cases made : p.corrected files m with
    | error x =>
      rw [made] at corrects
      exact .inl ⟨_, corrects, fails_of_corrected set made⟩
    | ok d =>
      rw [made] at corrects
      exact .inr ⟨_, corrects, assembled_of_isCorrected set (isCorrected_of_corrected made)⟩

theorem Fails.unique {x y : ParamsError} (hx : p.Fails files x) (hy : p.Fails files y) : x = y := by
  cases hx with
  | noModel unset =>
    cases hy with
    | noModel => rfl
    | missing model | refused model =>
      rw [unset] at model
      cases model
  | missing model correction absent =>
    cases hy with
    | noModel unset =>
      rw [unset] at model
      cases model
    | missing => rfl
    | refused _ correction' present =>
      obtain rfl := Option.some.inj (correction.symm.trans correction')
      rw [absent] at present
      cases present
  | refused model correction present refused =>
    cases hy with
    | noModel unset =>
      rw [unset] at model
      cases model
    | missing _ correction' absent =>
      obtain rfl := Option.some.inj (correction.symm.trans correction')
      rw [absent] at present
      cases present
    | refused model' correction' present' refused' =>
      obtain rfl := Option.some.inj (model.symm.trans model')
      obtain rfl := Option.some.inj (correction.symm.trans correction')
      obtain rfl := Option.some.inj (present.symm.trans present')
      rw [Except.error.inj (refused.symm.trans refused')]

theorem Fails.not_assembled {x : ParamsError} (fails : p.Fails files x) : ¬p.Assembled files d := by
  intro assembled
  have holds {path : String} (correction : p.correctionFile = some path) :
      ∃ c, Holds files (some path) (Calibration.parse d.model) c := by
    obtain ⟨c, there⟩ := Option.isSome_iff_exists.1 (assembled.calibrated (by simp [correction]))
    exact ⟨c, correction ▸ (assembled.calibration c).1 there⟩
  cases fails with
  | noModel unset =>
    have model := assembled.model
    rw [unset] at model
    cases model
  | missing model correction absent =>
    obtain ⟨c, name, blob, same, present, -⟩ := holds correction
    obtain rfl := Option.some.inj same
    rw [absent] at present
    cases present
  | refused model correction present refused =>
    obtain ⟨c, name, blob, same, present', parsed⟩ := holds correction
    obtain rfl := Option.some.inj same
    obtain rfl := Option.some.inj (present.symm.trans present')
    obtain rfl := Option.some.inj (model.symm.trans assembled.model)
    rw [refused] at parsed
    cases parsed

/-- Settings and files that differ only where auxiliary files are concerned, for a model that has no
use for those. -/
structure SameButAuxiliary (p q : Params) (files files' : Files) : Prop where
  unused : p.model ≠ some .qt128
  model : q.model = p.model
  correction : q.correctionFile = p.correctionFile
  correctionFile : ∀ path, p.correctionFile = some path → files' path = files path

theorem Fails.congr (same : SameButAuxiliary p q files files') {x : ParamsError}
    (fails : p.Fails files x) : q.Fails files' x := by
  cases fails with
  | noModel unset => exact .noModel (same.model.trans unset)
  | missing model correction absent =>
    exact .missing (same.model.trans model) (same.correction.trans correction)
      ((same.correctionFile _ correction).trans absent)
  | refused model correction present refused =>
    exact .refused (same.model.trans model) (same.correction.trans correction)
      ((same.correctionFile _ correction).trans present) refused

theorem Assembled.congr (same : SameButAuxiliary p q files files')
    (assembled : p.Assembled files d) :
    q.Assembled files' d := by
  have unused : d.model ≠ .qt128 := by
    intro used
    exact same.unused (assembled.model.trans (congrArg some used))
  have holds (c : Calibration) : Holds files' q.correctionFile (Calibration.parse d.model) c ↔
      Holds files p.correctionFile (Calibration.parse d.model) c := by
    rw [same.correction]
    constructor
    · rintro ⟨name, blob, set, present, parsed⟩
      exact ⟨name, blob, set, (same.correctionFile name set).symm.trans present, parsed⟩
    · rintro ⟨name, blob, set, present, parsed⟩
      exact ⟨name, blob, set, (same.correctionFile name set).trans present, parsed⟩
  exact {
    model := same.model.trans assembled.model
    calibration := fun c => (assembled.calibration c).trans (holds c).symm
    calibrated := fun set => assembled.calibrated (same.correction ▸ set)
    config := fun g => (assembled.config g).trans (by simp [unused])
    fireTimes := fun f => (assembled.fireTimes f).trans (by simp [unused])
    fireTimeCorrection := assembled.fireTimeCorrection
    splitter := assembled.splitter
    motion := assembled.motion }

/-- There is no decoder exactly if no model is set or the correction file that is set is not there
or is refused, and then with that error. Otherwise the decoder is a new one of the model with
exactly the tables that the files have for it; and for a model without auxiliary tables it does not
matter which files are set for them and what they hold. -/
theorem assembled_from_settings (p : Params) (files : Files) :
    (∀ e, p.decoder files = .error e ↔ p.Fails files e) ∧
    (∀ d, p.decoder files = .ok d ↔ p.Assembled files d) ∧
    ∀ q files', SameButAuxiliary p q files files' → q.decoder files' = p.decoder files := by
  rcases p.fails_or_assembled files with ⟨x, failed, fails⟩ | ⟨d, made, assembled⟩
  · refine ⟨?_, ?_, ?_⟩
    · intro e
      rw [failed, Except.error.injEq]
      constructor
      · rintro rfl
        exact fails
      · intro other
        exact fails.unique other
    · intro d
      rw [failed]
      exact iff_of_false nofun fails.not_assembled
    · intro q files' same
      rcases q.fails_or_assembled files' with ⟨y, failed', fails'⟩ | ⟨d, -, assembled⟩
      · rw [failed, failed', fails'.unique (fails.congr same)]
      · exact absurd assembled (fails.congr same).not_assembled
  · refine ⟨?_, ?_, ?_⟩
    · intro e
      rw [made]
      exact iff_of_false nofun fun fails => fails.not_assembled assembled
    · intro e
      rw [made, Except.ok.injEq]
      constructor
      · rintro rfl
        exact assembled
      · intro other
        exact assembled.unique other
    · intro q files' same
      rcases q.fails_or_assembled files' with ⟨y, -, fails⟩ | ⟨e, made', assembled'⟩
      · exact absurd (assembled.congr same) fails.not_assembled
      · rw [made, made', assembled'.unique (assembled.congr same)]

/-- A correction file and a table of firing times. -/
def twoFiles : Files
  | "angles" => some Decoder.oneLaser
  | "times" => some Decoder.endlessTimes
  | _ => none

def spinningSettings (m : Model) : Params :=
  { model := some m, correctionFile := some "angles", channelConfigFile := some "missing"
    fireTimesFile := some "times" }

/-- One model takes the firing times and does without the channel table that is missing; for another
model the same settings are as good as none for auxiliary files. -/
theorem assembled_from_settings_twoFiles :
    (∃ d f, (spinningSettings .qt128).decoder twoFiles = .ok d ∧
      d.parts.calibration = some (.angles ⟨#[⟨0, 0⟩]⟩) ∧ d.parts.config = none ∧
      FireTimes.parse Decoder.endlessTimes = .ok f ∧ d.parts.fireTimes = some f) ∧
    (spinningSettings .p128).decoder twoFiles =
      Params.decoder { model := some .p128, correctionFile := some "angles" } twoFiles := by
  obtain ⟨fails, assembled, -⟩ := assembled_from_settings (spinningSettings .qt128) twoFiles
  obtain ⟨-, -, indifferent⟩ := assembled_from_settings
    { model := some .p128, correctionFile := some "angles" } twoFiles
  obtain ⟨f, times, -⟩ := Decoder.parse_endlessTimes
  have angles : Calibration.parse .qt128 Decoder.oneLaser = .ok (.angles ⟨#[⟨0, 0⟩]⟩) :=
    Decoder.parse_of_oneLaser (by decide)
  constructor
  · cases made : (spinningSettings .qt128).decoder twoFiles with
    | error x =>
      cases (fails x).1 made with
      | noModel unset => cases unset
      | missing _ correction absent =>
        cases correction
        cases absent
      | refused model correction present refused =>
        cases model
        cases correction
        cases present
        rw [angles] at refused
        cases refused
    | ok d =>
      obtain ⟨model, calibration, -, config, fireTimes, -, -, -⟩ := (assembled d).1 made
      have model : d.model = .qt128 := (Option.some.inj model).symm
      refine ⟨d, f, rfl, ?_, ?_, times, ?_⟩
      · rw [calibration, model]
        exact ⟨"angles", _, rfl, rfl, angles⟩
      · rw [Option.eq_none_iff_forall_not_mem]
        intro g there
        obtain ⟨-, name, blob, set, present, -⟩ := (config g).1 there
        cases set
        cases present
      · exact (fireTimes f).2 ⟨model, "times", _, rfl, rfl, times⟩
  · exact indifferent _ twoFiles ⟨by decide, rfl, rfl, fun _ _ => rfl⟩

end Lidar.Params
