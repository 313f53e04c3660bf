import Lidar.Proofs.Params.Values

namespace Lidar.Params

open Text (trim trimStart isBlank allBlank joinFields)

/-- A key with a value for it. -/
structure Setting where
  key : Key
  value : key.Value

variable {p : Params} {k : Key} {piece key value text : List Char} {e : ParamsError}
  {pieces : List (List Char)} {settings : List Setting} {told : List (List Setting)}

/-- A text that is not blank at its ends, with white space around it. -/
def Spaced (s text : List Char) : Prop :=
  trim s = s ∧ ∃ before behind, text = before ++ (s ++ behind) ∧
    (∀ c ∈ before, isBlank c = true) ∧ ∀ c ∈ behind, isBlank c = true

/-- A key and a value, with white space around each. They meet at the first equals sign; the value
may have more of them. -/
def IsItem (piece key value : List Char) : Prop :=
  ∃ front back, piece = front ++ '=' :: back ∧ '=' ∉ front ∧ Spaced key front ∧ Spaced value back

/-- What stands between two commas tells nothing, or one setting. -/
inductive Tells (piece : List Char) : List Setting → Prop where
  | blank (blank : allBlank piece = true) : Tells piece []
  | unknown {key value : List Char} (item : IsItem piece key value)
      (unknown : ∀ k : Key, key ≠ k.name.toList) : Tells piece []
  | setting {k : Key} {v : k.Value} {value : List Char} (item : IsItem piece k.name.toList value)
      (stands : k.Stands v value) : Tells piece [⟨k, v⟩]

/-- An item without an equals sign, or with a value that is refused. -/
inductive Offends (piece : List Char) : ParamsError → Prop where
  | missing (full : allBlank piece = false) (none : '=' ∉ piece) :
      Offends piece (.missingValue (String.ofList (trim piece)))
  | refused {k : Key} {value : List Char} {e : ParamsError}
      (item : IsItem piece k.name.toList value) (refused : k.Refuses value e) : Offends piece e

/-- Pieces with commas between them. -/
def IsJoined (text : List Char) (pieces : List (List Char)) : Prop :=
  text = joinFields pieces ∧ ∀ piece ∈ pieces, ',' ∉ piece

/-- The settings that a text goes through, from left to right. -/
def Spells (text : List Char) (settings : List Setting) : Prop :=
  ∃ pieces told, IsJoined text pieces ∧ List.Forall₂ Tells pieces told ∧ settings = told.flatten

/-- The last setting for a key. -/
def Latest (settings : List Setting) (k : Key) (v : k.Value) : Prop :=
  ∃ front behind, settings = front ++ ⟨k, v⟩ :: behind ∧ ∀ s ∈ behind, s.key ≠ k

/-- For each key the last setting counts, and the initial one if there is no other. -/
def Reflects (p : Params) (settings : List Setting) : Prop :=
  ∀ k, Latest settings k (p.get k) ∨ (∀ s ∈ settings, s.key ≠ k) ∧ get {} k = p.get k

/-- The first item that offends. -/
def FirstOffence (text : List Char) (e : ParamsError) : Prop :=
  ∃ front piece behind, IsJoined text (front ++ piece :: behind) ∧
    (∀ earlier ∈ front, ∀ e', ¬Offends earlier e') ∧ Offends piece e

theorem spaced_iff {s : List Char} : Spaced s text ↔ trim text = s := by
  constructor
  · rintro ⟨bare, before, behind, rfl, front, back⟩
    rw [Text.trim_append_of_blank front, Text.trim_append_blank back, bare]
  · rintro rfl
    exact ⟨Text.trim_trim text, Text.exists_eq_trim text⟩

theorem isItem_of_split (front back : List Char) (first : '=' ∉ front) :
    IsItem (front ++ '=' :: back) (trim front) (trim back) :=
  ⟨front, back, rfl, first, spaced_iff.2 rfl, spaced_iff.2 rfl⟩

theorem IsItem.bare (item : IsItem piece key value) : trim value = value := by
  obtain ⟨front, back, -, -, -, bare, -⟩ := item
  exact bare

/-- The settings after what stands between two commas. -/
def setPiece (p : Params) (piece : List Char) : Except ParamsError Params :=
  if (trim piece).isEmpty then .ok p else p.setItem (trim piece)

theorem setPiece_of_blank (p : Params) (blank : allBlank piece = true) :
    p.setPiece piece = .ok p := by
  rw [setPiece, Text.trim_eq_nil_iff.2 blank]
  rfl

theorem setPiece_of_full (p : Params) (full : allBlank piece = false) :
    p.setPiece piece = p.setItem (trim piece) := by
  rw [setPiece, if_neg]
  rw [List.isEmpty_iff, Text.trim_eq_nil_iff, full]
  exact Bool.false_ne_true

theorem setItem_of_split (p : Params) {front : List Char} (first : '=' ∉ front)
    (back : List Char) :
    p.setItem (front ++ '=' :: back) = p.set (String.ofList (trim front)) (trim back) := by
  have others : ∀ c ∈ front, decide (c ≠ '=') = true := by
    intro c listed
    exact decide_eq_true (ne_of_mem_of_not_mem listed first)
  rw [setItem, List.dropWhile_append_of_pos others, List.takeWhile_append_of_pos others]
  simp

/-- White space at the ends of an item is white space around its key or its value. -/
theorem setPiece_of_isItem (p : Params) (item : IsItem piece key value) :
    p.setPiece piece = p.set (String.ofList key) value := by
  obtain ⟨front, back, rfl, first, spacedKey, spacedValue⟩ := item
  have full : allBlank (front ++ '=' :: back) = false := by
    simp [allBlank, show isBlank '=' = false from rfl]
  have kept : '=' ∉ trimStart front := fun listed => first (List.dropWhile_subset isBlank listed)
  rw [setPiece_of_full p full, Text.trim_append_cons rfl, setItem_of_split p kept,
    Text.trim_trimStart, Text.trim_trimEnd, spaced_iff.1 spacedKey, spaced_iff.1 spacedValue]

/-- The settings after some more. -/
def after (p : Params) (settings : List Setting) : Params :=
  settings.foldl (fun p s => p.put s.key s.value) p

theorem after_append (p : Params) (front behind : List Setting) :
    p.after (front ++ behind) = (p.after front).after behind :=
  List.foldl_append

theorem setPiece_of_tells (p : Params) (tells : Tells piece settings) :
    p.setPiece piece = .ok (p.after settings) := by
  cases tells with
  | blank blank => exact p.setPiece_of_blank blank
  | @unknown key value item unknown =>
    rw [p.setPiece_of_isItem item]
    apply set_unknown
    intro k same
    exact unknown k (by rw [← same, String.toList_ofList])
  | @setting k v value item stands =>
    rw [p.setPiece_of_isItem item, String.ofList_toList, set_name,
      (Key.read_eq_ok_iff item.bare).2 stands]
    rfl

theorem setPiece_of_offends (p : Params) (offends : Offends piece e) :
    p.setPiece piece = .error e := by
  cases offends with
  | missing full none =>
    have last : (trim piece).dropWhile (· ≠ '=') = [] := by
      rw [List.dropWhile_eq_nil_iff]
      intro c listed
      exact decide_eq_true (ne_of_mem_of_not_mem (Text.mem_of_mem_trim listed) none)
    rw [p.setPiece_of_full full, setItem, last]
  | refused item refused =>
    rw [p.setPiece_of_isItem item, String.ofList_toList, set_name,
      (Key.read_eq_error_iff item.bare).2 refused]
    rfl

theorem tells_or_offends (piece : List Char) :
    (∃ settings, Tells piece settings) ∨ ∃ e, Offends piece e := by
  cases blank : allBlank piece with
  | true => exact .inl ⟨[], .blank blank⟩
  | false =>
    by_cases written : '=' ∈ piece
    · obtain ⟨front, back, rfl, first⟩ := List.eq_append_cons_of_mem written
      have item := isItem_of_split front back first
      by_cases known : ∃ k : Key, trim front = k.name.toList
      · obtain ⟨k, same⟩ := known
        rw [same] at item
        cases read : k.read (trim back) with
        | ok v => exact .inl ⟨_, .setting item ((Key.read_eq_ok_iff item.bare).1 read)⟩
        | error e => exact .inr ⟨e, .refused item ((Key.read_eq_error_iff item.bare).1 read)⟩
      · exact .inl ⟨[], .unknown item (not_exists.1 known)⟩
    · exact .inr ⟨_, .missing blank written⟩

theorem foldlM_of_tells (p : Params) (tells : List.Forall₂ Tells pieces told) :
    pieces.foldlM setPiece p = .ok (p.after told.flatten) := by
  induction tells generalizing p with
  | nil => rfl
  | @cons piece settings pieces told first _ ih =>
    rw [List.foldlM_cons, p.setPiece_of_tells first, ok_bind, ih, List.flatten_cons, after_append]

theorem exists_told (none : ∀ piece ∈ pieces, ∀ e, ¬Offends piece e) :
    ∃ told, List.Forall₂ Tells pieces told := by
  apply exists_forall₂
  intro piece listed
  rcases tells_or_offends piece with tells | ⟨e, offends⟩
  · exact tells
  · exact absurd offends (none piece listed e)

theorem foldlM_of_offends (p : Params) {front behind : List (List Char)}
    (none : ∀ piece ∈ front, ∀ e, ¬Offends piece e) (offends : Offends piece e) :
    (front ++ piece :: behind).foldlM setPiece p = .error e := by
  obtain ⟨told, tells⟩ := exists_told none
  rw [List.foldlM_append, p.foldlM_of_tells tells, ok_bind, List.foldlM_cons,
    setPiece_of_offends _ offends]
  rfl

theorem not_offends_of_tells (tells : Tells piece settings) : ¬Offends piece e := by
  intro offends
  have contradiction := setPiece_of_tells {} tells
  rw [setPiece_of_offends {} offends] at contradiction
  cases contradiction

/-- Either nothing offends, or something is the first to do so. -/
theorem told_or_offence (pieces : List (List Char)) : (∃ told, List.Forall₂ Tells pieces told) ∨
    ∃ front piece behind e, pieces = front ++ piece :: behind ∧
      (∀ earlier ∈ front, ∀ e', ¬Offends earlier e') ∧ Offends piece e := by
  induction pieces with
  | nil => exact .inl ⟨[], .nil⟩
  | cons first pieces ih =>
    rcases tells_or_offends first with ⟨settings, tells⟩ | ⟨e, offends⟩
    · rcases ih with ⟨told, rest⟩ | ⟨front, piece, behind, e, rfl, none, offends⟩
      · exact .inl ⟨settings :: told, .cons tells rest⟩
      · refine .inr ⟨first :: front, piece, behind, e, rfl, ?_, offends⟩
        rw [List.forall_mem_cons]
        exact ⟨fun _ => not_offends_of_tells tells, none⟩
    · exact .inr ⟨[], first, pieces, e, rfl, nofun, offends⟩

theorem isJoined_splitOn (text : List Char) : IsJoined text (text.splitOn ',') :=
  ⟨(List.intercalate_splitOn ',').symm, fun _ listed => (Text.mem_splitOn listed).1⟩

theorem read_of_isJoined (joined : IsJoined text pieces) :
    read text = pieces.foldlM setPiece {} := by
  have pieceByPiece : read text = (text.splitOn ',').foldlM setPiece {} := by
    rw [read, items, List.foldlM_filter, List.foldlM_map]
    congr
    funext p piece
    rw [setPiece]
    cases (trim piece).isEmpty <;> rfl
  obtain ⟨rfl, whole⟩ := joined
  rw [pieceByPiece]
  cases pieces with
  | nil => rfl
  | cons piece pieces =>
    rw [joinFields, List.splitOn_intercalate ',' whole (List.cons_ne_nil piece pieces)]

theorem read_of_spells (spells : Spells text settings) : read text = .ok (after {} settings) := by
  obtain ⟨pieces, told, joined, tells, rfl⟩ := spells
  rw [read_of_isJoined joined, foldlM_of_tells {} tells]

theorem read_of_firstOffence (first : FirstOffence text e) : read text = .error e := by
  obtain ⟨front, piece, behind, joined, none, offends⟩ := first
  rw [read_of_isJoined joined, foldlM_of_offends {} none offends]

theorem spells_or_firstOffence (text : List Char) :
    (∃ settings, Spells text settings) ∨ ∃ e, FirstOffence text e := by
  have joined := isJoined_splitOn text
  rcases told_or_offence (text.splitOn ',') with
    ⟨told, tells⟩ | ⟨front, piece, behind, e, split, rest⟩
  · exact .inl ⟨_, _, told, joined, tells, rfl⟩
  · exact .inr ⟨e, front, piece, behind, split ▸ joined, rest⟩

theorem latest_cons {s : Setting} {v : k.Value} : Latest (s :: settings) k v ↔
    Latest settings k v ∨ (∀ later ∈ settings, later.key ≠ k) ∧ s = ⟨k, v⟩ := by
  constructor
  · rintro ⟨front, behind, split, none⟩
    cases front with
    | nil =>
      obtain ⟨same, rfl⟩ := List.cons.inj split
      exact .inr ⟨none, same⟩
    | cons s' front =>
      obtain ⟨-, rfl⟩ := List.cons.inj split
      exact .inl ⟨front, behind, rfl, none⟩
  · rintro (⟨front, behind, rfl, none⟩ | ⟨none, rfl⟩)
    · exact ⟨s :: front, behind, rfl, none⟩
    · exact ⟨[], settings, rfl, none⟩

theorem get_after {v : k.Value} : (p.after settings).get k = v ↔
    Latest settings k v ∨ (∀ s ∈ settings, s.key ≠ k) ∧ p.get k = v := by
  induction settings generalizing p with
  | nil => simp [after, Latest]
  | cons s settings ih =>
    obtain ⟨j, w⟩ := s
    have step : p.after (⟨j, w⟩ :: settings) = (p.put j w).after settings := rfl
    rw [step, ih, get_put, latest_cons, List.forall_mem_cons]
    by_cases same : k = j
    · subst same
      have sole : ((⟨k, w⟩ : Setting) = ⟨k, v⟩) ↔ w = v := by
        constructor
        · intro equal
          cases equal
          rfl
        · rintro rfl
          rfl
      simp [sole]
    · have other : (⟨j, w⟩ : Setting) ≠ ⟨k, v⟩ := by
        intro equal
        exact same (congrArg Setting.key equal).symm
      simp [Function.update_of_ne same, other, Ne.symm same]

theorem after_eq_iff : after {} settings = p ↔ p.Reflects settings := by
  constructor
  · rintro rfl k
    exact get_after.1 rfl
  · intro reflects
    exact eq_of_get_eq fun k => get_after.2 (reflects k)

/-- What is set under a key. -/
def setting (p : Params) (k : Key) : Setting := ⟨k, p.get k⟩

theorem exists_tells (tidy : p.Tidy) (named : p.model = none → k ≠ .model) :
    ∃ piece, ',' ∉ piece ∧ Tells piece [p.setting k] := by
  obtain ⟨value, stands, bare, whole⟩ := exists_stands tidy named
  obtain ⟨first, bareName, wholeName⟩ := k.name_isSound
  refine ⟨k.name.toList ++ '=' :: value, ?_, ?_⟩
  · simp [wholeName, whole]
  · have item : IsItem (k.name.toList ++ '=' :: value) k.name.toList value :=
      ⟨_, value, rfl, first, spaced_iff.2 bareName, spaced_iff.2 bare⟩
    exact .setting item stands

theorem exists_spells {keys : List Key} (tidy : p.Tidy) (named : p.model = none → .model ∉ keys) :
    ∃ text, Spells text (keys.map p.setting) := by
  have written : ∃ pieces told, (∀ piece ∈ pieces, ',' ∉ piece) ∧ List.Forall₂ Tells pieces told ∧
      keys.map p.setting = told.flatten := by
    induction keys with
    | nil => exact ⟨[], [], nofun, .nil, rfl⟩
    | cons k keys ih =>
      obtain ⟨pieces, told, whole, tells, same⟩ :=
        ih fun unset listed => named unset (List.mem_cons_of_mem k listed)
      have known : p.model = none → k ≠ .model := by
        rintro unset rfl
        exact named unset List.mem_cons_self
      obtain ⟨piece, first, setting⟩ := exists_tells tidy known
      refine ⟨piece :: pieces, [p.setting k] :: told, ?_, .cons setting tells, ?_⟩
      · exact List.forall_mem_cons.2 ⟨first, whole⟩
      · rw [List.map_cons, same]
        rfl
  obtain ⟨pieces, told, whole, tells, same⟩ := written
  exact ⟨joinFields pieces, pieces, told, ⟨rfl, whole⟩, tells, same⟩

theorem reflects_map_setting {keys : List Key} (once : keys.Nodup)
    (all : ∀ k, get {} k ≠ p.get k → k ∈ keys) : p.Reflects (keys.map p.setting) := by
  intro k
  by_cases listed : k ∈ keys
  · obtain ⟨front, behind, rfl⟩ := List.append_of_mem listed
    refine .inl ⟨front.map p.setting, behind.map p.setting, by rw [List.map_append]; rfl, ?_⟩
    rw [List.forall_mem_map]
    intro j later same
    exact (List.nodup_cons.1 (List.nodup_append.1 once).2.1).1 (same ▸ later)
  · refine .inr ⟨?_, by_contra fun other => listed (all k other)⟩
    rw [List.forall_mem_map]
    intro j there same
    exact listed (same ▸ there)

/-- A text is read as the settings that it spells, where for each key the last one counts. Settings
with tidy paths can be spelled with their keys in any order, and a key whose value is the initial
one may be left out. A text cannot be read exactly if something in it offends, and then the first
offence is the error. -/
theorem read_as_spelled :
    (∀ text p, read text = .ok p ↔ ∃ settings, Spells text settings ∧ p.Reflects settings) ∧
    (∀ p : Params, p.Tidy → ∀ keys : List Key, keys.Nodup →
      (∀ k, get {} k ≠ p.get k → k ∈ keys) → (p.model = none → .model ∉ keys) →
      p.Reflects (keys.map p.setting) ∧ ∃ text, Spells text (keys.map p.setting)) ∧
    ∀ text e, read text = .error e ↔ FirstOffence text e := by
  refine ⟨?_, ?_, ?_⟩
  · intro text p
    constructor
    · intro made
      rcases spells_or_firstOffence text with ⟨settings, spells⟩ | ⟨e, first⟩
      · rw [read_of_spells spells, Except.ok.injEq, after_eq_iff] at made
        exact ⟨settings, spells, made⟩
      · rw [read_of_firstOffence first] at made
        cases made
    · rintro ⟨settings, spells, reflects⟩
      rw [read_of_spells spells, after_eq_iff.2 reflects]
  · intro p tidy keys once all named
    exact ⟨reflects_map_setting once all, exists_spells tidy named⟩
  · intro text e
    constructor
    · intro failed
      rcases spells_or_firstOffence text with ⟨settings, spells⟩ | ⟨e', first⟩
      · rw [read_of_spells spells] at failed
        cases failed
      · rw [read_of_firstOffence first, Except.error.injEq] at failed
        exact failed ▸ first
    · exact read_of_firstOffence

/-- A port that is set twice, among items that do not count; one that is refused before it is set
right; and settings with an equals sign in a path. -/
theorem read_as_spelled_ports :
    read " udp_port = 1 ,, note=a=b,\tudp_port=+02370".toList = .ok { udpPort := 2370 } ∧
    read "udp_port=70000,udp_port=1".toList = .error (.invalidValue .udpPort "70000") ∧
    ∃ text, read text = .ok { model := some .qt128, correctionFile := some "a=b.csv" } := by
  obtain ⟨spelled, any, failed⟩ := read_as_spelled
  refine ⟨?_, ?_, ?_⟩
  · rw [spelled]
    refine ⟨[⟨.checked .udpPort, (1 : UInt16)⟩, ⟨.checked .udpPort, (2370 : UInt16)⟩], ?_, ?_⟩
    · refine ⟨[" udp_port = 1 ".toList, [], " note=a=b".toList, "\tudp_port=+02370".toList],
        [[_], [], [], [_]], ⟨by decide, by decide⟩, ?_, rfl⟩
      have first := isItem_of_split " udp_port ".toList " 1 ".toList (by decide)
      have note := isItem_of_split " note".toList "a=b".toList (by decide)
      have last := isItem_of_split "\tudp_port".toList "+02370".toList (by decide)
      refine .cons (.setting first ?_) (.cons (.blank rfl) (.cons (.unknown note ?_)
        (.cons (.setting last ?_) .nil)))
      · exact ⟨[], 0, .inl rfl, by decide⟩
      · rintro (_ | _ | _ | _ | (_ | _ | _ | _ | _)) <;> decide
      · exact ⟨['+'], 1, .inr rfl, by decide⟩
    · intro k
      by_cases port : k = .checked .udpPort
      · subst port
        exact .inl ⟨[_], [], rfl, nofun⟩
      · refine .inr ⟨by simp [Ne.symm port], ?_⟩
        rcases k with _ | _ | _ | _ | (_ | _ | _ | _ | _) <;> first | rfl | exact absurd rfl port
  · rw [failed]
    have item : IsItem "udp_port=70000".toList (Key.checked .udpPort).name.toList "70000".toList :=
      isItem_of_split "udp_port".toList "70000".toList (by decide)
    refine ⟨[], "udp_port=70000".toList, ["udp_port=1".toList], ⟨by decide, by decide⟩, nofun,
      .refused item (.checked ?_)⟩
    intro v port
    cases isPort_iff.1 port
  · have tidy : IsTidy "a=b.csv" := ⟨by decide, by decide, by decide⟩
    have all (k : Key) (other : get {} k ≠
        get { model := some .qt128, correctionFile := some "a=b.csv" } k) :
        k ∈ [.correctionFile, .model] := by
      by_contra left
      apply other
      rcases k with _ | _ | _ | _ | (_ | _ | _ | _ | _) <;> first | rfl | simp at left
    obtain ⟨reflects, text, spells⟩ := any _ (by simp [Tidy, tidy]) _ (by decide) all nofun
    exact ⟨text, (spelled _ _).2 ⟨_, spells, reflects⟩⟩

end Lidar.Params
