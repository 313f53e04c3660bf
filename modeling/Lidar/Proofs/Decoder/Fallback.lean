import Lidar.Decoder.Loading
import Lidar.Proofs.Decoder.Outcome
import Lidar.Proofs.Decoder.Parts

namespace Lidar

/-- What a source has for a model. -/
def CalibrationSource.calibration (files : Files) (m : Model) (source : CalibrationSource) :
    Except LoadError Decoder.Calibration :=
  match source.fetch files with
  | .error kind => .error (.unavailable kind)
  | .ok blob => Decoder.Calibration.parse m blob

namespace Decoder

/-- The parts with another calibration. -/
def Parts.recalibrated (p : Parts) (c : Calibration) : Parts := { p with calibration := some c }

section Loads

variable {d : Decoder} {blob : Bytes} {table : Table}

/-- A load does what the parser says, to one table or not at all. -/
structure LoadsWhole (d : Decoder) (blob : Bytes) (table : Table) : Prop where
  refused : ∀ x, Loaded.parse d.model blob table = .error x →
    d.load blob table = { outcome := .error x, decoder := d } ∧ d.apply (.load blob table) = d
  replaces : ∀ l, Loaded.parse d.model blob table = .ok l →
    ∃ e, d.load blob table = { outcome := .ok (), decoder := e } ∧
      d.apply (.load blob table) = e ∧ e.parts = d.parts.set l

theorem loadsWhole (d : Decoder) (blob : Bytes) (table : Table) : d.LoadsWhole blob table := by
  constructor
  · intro x refused
    have failed := load_of_refused table refused
    exact ⟨failed, by rw [apply_load, failed]⟩
  · intro l parsed
    obtain ⟨e, loaded, same⟩ := load_of_parsed table parsed
    exact ⟨e, loaded, by rw [apply_load, loaded], same⟩

end Loads

section Sources

variable {files : Files} {d : Decoder} {last : LoadError} {source : CalibrationSource}
  {sources : List CalibrationSource}

theorem loadFetched_of_usable {c : Calibration}
    (usable : source.calibration files d.model = .ok c) :
    ∃ e, d.loadFetched (source.fetch files) = { outcome := .ok (), decoder := e } ∧
      e.parts = d.parts.recalibrated c := by
  rw [CalibrationSource.calibration] at usable
  cases fetched : source.fetch files with
  | error kind =>
    rw [fetched] at usable
    cases usable
  | ok blob =>
    rw [fetched] at usable
    exact load_of_parsed .calibration (map_eq_ok_iff.2 ⟨c, usable, rfl⟩)

theorem loadFetched_of_unusable {x : LoadError}
    (unusable : source.calibration files d.model = .error x) :
    d.loadFetched (source.fetch files) = { outcome := .error x, decoder := d } := by
  rw [CalibrationSource.calibration] at unusable
  cases fetched : source.fetch files with
  | error kind =>
    rw [fetched] at unusable
    obtain rfl := Except.error.inj unusable
    rfl
  | ok blob =>
    rw [fetched] at unusable
    exact load_of_refused .calibration (map_eq_error_iff.2 unusable)

/-- No source is asked behind one that has a calibration. -/
theorem search_of_usable {c : Calibration} (usable : source.calibration files d.model = .ok c) :
    ∃ e, e.parts = d.parts.recalibrated c ∧ ∀ last rest, search files d last (source :: rest) =
      { outcome := .ok (), decoder := e, asked := 1 } := by
  obtain ⟨e, loaded, same⟩ := loadFetched_of_usable usable
  exact ⟨e, same, fun last rest => by rw [search, loaded]⟩

theorem search_of_unusable {x : LoadError} (unusable : source.calibration files d.model = .error x)
    (last : LoadError) (rest : List CalibrationSource) :
    search files d last (source :: rest) =
      let later := search files d x rest
      { later with asked := later.asked + 1 } := by
  rw [search, loadFetched_of_unusable unusable]

/-- The search has found the calibration of the first source that has one, and would have found it
with any other sources behind. -/
def Finds (files : Files) (d : Decoder) (last : LoadError) (sources : List CalibrationSource)
    (e : Decoder) : Prop :=
  ∃ front source behind c, sources = front ++ source :: behind ∧
    (∀ s ∈ front, ∃ x, s.calibration files d.model = .error x) ∧
    source.calibration files d.model = .ok c ∧ e.parts = d.parts.recalibrated c ∧
    ∀ others, search files d last (front ++ source :: others) =
      { outcome := .ok (), decoder := e, asked := front.length + 1 }

/-- The search has asked all sources in vain and ends with the complaint of the last one. -/
structure Fails (files : Files) (d : Decoder) (last : LoadError) (sources : List CalibrationSource)
    (x : LoadError) : Prop where
  unusable : ∀ s ∈ sources, ∃ y, s.calibration files d.model = .error y
  ended : search files d last sources =
    { outcome := .error x, decoder := d, asked := sources.length }
  empty : sources = [] → x = last
  complaint : ∀ s, sources.getLast? = some s → s.calibration files d.model = .error x

theorem Finds.cons {e : Decoder} {x : LoadError}
    (unusable : source.calibration files d.model = .error x)
    (h : Finds files d x sources e) (last : LoadError) :
    Finds files d last (source :: sources) e := by
  obtain ⟨front, found, behind, c, rfl, refused, usable, same, alone⟩ := h
  refine ⟨source :: front, found, behind, c, rfl, ?_, usable, same, ?_⟩
  · intro s hs
    rcases List.mem_cons.1 hs with rfl | hs
    · exact ⟨x, unusable⟩
    · exact refused s hs
  · intro others
    rw [List.cons_append, search_of_unusable unusable, alone, List.length_cons]

theorem Fails.cons {x y : LoadError} (unusable : source.calibration files d.model = .error x)
    (h : Fails files d x sources y) (last : LoadError) :
    Fails files d last (source :: sources) y := by
  refine ⟨?_, ?_, ?_, ?_⟩
  · intro s hs
    rcases List.mem_cons.1 hs with rfl | hs
    · exact ⟨x, unusable⟩
    · exact h.unusable s hs
  · rw [search_of_unusable unusable, h.ended, List.length_cons]
  · intro none
    cases none
  · intro s hs
    cases sources with
    | nil =>
      obtain rfl := Option.some.inj hs
      rw [h.empty rfl]
      exact unusable
    | cons t rest =>
      rw [List.getLast?_cons_cons] at hs
      exact h.complaint s hs

/-- Every search finds or fails; the complaint so far is carried from source to source. -/
theorem finds_or_fails (files : Files) (d : Decoder) (sources : List CalibrationSource)
    (last : LoadError) :
    (∃ e, Finds files d last sources e) ∨ ∃ x, Fails files d last sources x := by
  induction sources generalizing last with
  | nil =>
    have nothing (P : CalibrationSource → Prop) : ∀ s ∈ ([] : List CalibrationSource), P s := by
      intro s hs
      cases hs
    refine .inr ⟨last, nothing _, rfl, fun _ => rfl, ?_⟩
    intro s hs
    cases hs
  | cons source rest ih =>
    cases had : source.calibration files d.model with
    | ok c =>
      obtain ⟨e, same, alone⟩ := search_of_usable had
      refine .inl ⟨e, [], source, rest, c, rfl, ?_, had, same, alone last⟩
      intro s hs
      cases hs
    | error x =>
      rcases ih x with ⟨e, finds⟩ | ⟨y, fails⟩
      · exact .inl ⟨e, finds.cons had last⟩
      · exact .inr ⟨y, fails.cons had last⟩

theorem Finds.search_eq {e : Decoder} (h : Finds files d last sources e) :
    ∃ asked, search files d last sources = { outcome := .ok (), decoder := e, asked } ∧
      ∃ source ∈ sources, ∃ c, source.calibration files d.model = .ok c := by
  obtain ⟨front, source, behind, c, rfl, -, usable, -, alone⟩ := h
  exact ⟨_, alone behind, source, List.mem_append_right front List.mem_cons_self, c, usable⟩

/-- What a search for a calibration does. -/
structure SearchesInOrder (files : Files) (d : Decoder) (sources : List CalibrationSource) :
    Prop where
  succeeds_iff : (d.loadCalibrationFrom files sources).outcome = .ok () ↔
    ∃ source ∈ sources, ∃ c, source.calibration files d.model = .ok c
  finds : (d.loadCalibrationFrom files sources).outcome = .ok () →
    Finds files d .empty sources (d.loadCalibrationFrom files sources).decoder
  fails : ∀ x, (d.loadCalibrationFrom files sources).outcome = .error x →
    (d.loadCalibrationFrom files sources).decoder = d ∧ Fails files d .empty sources x

theorem searchesInOrder (files : Files) (d : Decoder) (sources : List CalibrationSource) :
    SearchesInOrder files d sources := by
  rcases finds_or_fails files d sources .empty with ⟨e, h⟩ | ⟨x, h⟩
  · obtain ⟨asked, ended, usable⟩ := h.search_eq
    have result : d.loadCalibrationFrom files sources =
        { outcome := .ok (), decoder := e, asked } := ended
    refine ⟨⟨fun _ => usable, fun _ => by rw [result]⟩, fun _ => by rw [result]; exact h, ?_⟩
    intro x failed
    rw [result] at failed
    cases failed
  · have result : d.loadCalibrationFrom files sources =
        { outcome := .error x, decoder := d, asked := sources.length } := h.ended
    refine ⟨⟨?_, ?_⟩, ?_, ?_⟩
    · intro found
      rw [result] at found
      cases found
    · rintro ⟨source, listed, c, usable⟩
      obtain ⟨y, unusable⟩ := h.unusable source listed
      cases unusable.symm.trans usable
    · intro found
      rw [result] at found
      cases found
    · intro y failed
      rw [result] at failed ⊢
      obtain rfl := Except.error.inj failed
      exact ⟨rfl, h⟩

end Sources

section Runs

/-- What can happen to a decoder: an operation of its own, or a search for a calibration. -/
inductive Event where
  | operation (op : Operation)
  | search (files : Files) (sources : List CalibrationSource)

def meet (d : Decoder) : Event → Decoder
  | .operation op => d.apply op
  | .search files sources => (d.loadCalibrationFrom files sources).decoder

variable {d : Decoder}

theorem calibrated_apply (op : Operation) (h : d.parts.calibration.isSome) :
    (d.apply op).parts.calibration.isSome := by
  rcases (follows_apply d op).calibration with kept | ⟨blob, c, -, there⟩
  · rw [kept]
    exact h
  · rw [there]
    rfl

theorem calibrated_meet (event : Event) (h : d.parts.calibration.isSome) :
    (d.meet event).parts.calibration.isSome := by
  cases event with
  | operation op => exact calibrated_apply op h
  | search files sources =>
    have searched := searchesInOrder files d sources
    rw [meet]
    cases ended : (d.loadCalibrationFrom files sources).outcome with
    | error x =>
      rw [(searched.fails x ended).1]
      exact h
    | ok =>
      obtain ⟨front, source, behind, c, -, -, -, same, -⟩ := searched.finds ended
      rw [same]
      rfl

theorem calibrated_run (events : List Event) (h : d.parts.calibration.isSome) :
    (events.foldl meet d).parts.calibration.isSome := by
  induction events generalizing d with
  | nil => exact h
  | cons event events ih => exact ih (calibrated_meet event h)

end Runs

/-- For every decoder: each load of a blob and each search through sources is all or nothing, and
whatever happens to a calibrated decoder, it stays calibrated. -/
theorem loading_is_atomic (d : Decoder) :
    (∀ blob table, d.LoadsWhole blob table) ∧
      (∀ files sources, SearchesInOrder files d sources) ∧
      ∀ events : List Event, d.isCalibrated = true → (events.foldl meet d).isCalibrated = true := by
  refine ⟨loadsWhole d, fun files sources => searchesInOrder files d sources, ?_⟩
  intro events
  simp only [isCalibrated_iff]
  exact calibrated_run events

/-- A connection that times out, a missing file and a blob that is no text are passed over; the
blob behind the good one is not looked at. -/
theorem loading_is_atomic_fourthSource :
    let files : Files := fun _ => none
    let sources : List CalibrationSource := [.failing .timedOut, .file "missing", .memory #[0xFF],
      .memory oneLaser, .memory #[]]
    ∃ e, loadCalibrationFrom files (ofModel .qt128) sources =
        { outcome := .ok (), decoder := e, asked := 4 } ∧
      Finds files (ofModel .qt128) .empty sources e ∧
      e.parts = (ofModel .qt128).parts.recalibrated (.angles ⟨#[⟨0, 0⟩]⟩) ∧
      ∀ events : List Event, (events.foldl meet e).isCalibrated = true := by
  intro files sources
  have usable : (CalibrationSource.memory oneLaser).calibration files .qt128 =
      .ok (.angles ⟨#[⟨0, 0⟩]⟩) := parse_of_oneLaser (m := .qt128) (by decide)
  have noText : (CalibrationSource.memory #[0xFF]).calibration files .qt128 =
      .error (.invalidField 1 "<binary data>") := rfl
  obtain ⟨e, same, alone⟩ := search_of_usable (d := ofModel .qt128) usable
  have ended : loadCalibrationFrom files (ofModel .qt128) sources =
      { outcome := .ok (), decoder := e, asked := 4 } := by
    rw [loadCalibrationFrom, search_of_unusable (x := .unavailable .timedOut) rfl,
      search_of_unusable (x := .unavailable .notFound) rfl, search_of_unusable noText, alone]
  have calibrated : e.isCalibrated = true := by rw [isCalibrated_iff, same]; rfl
  have searched := (loading_is_atomic (ofModel .qt128)).2.1 files sources
  have found := searched.finds (by rw [ended])
  rw [ended] at found
  refine ⟨e, ended, found, same, ?_⟩
  intro events
  exact (loading_is_atomic e).2.2 events calibrated

end Decoder

end Lidar
