import Lidar.Params
import Lidar.Proofs.Except
import Lidar.Proofs.Net.Dotted
import Mathlib.Logic.Function.Basic

namespace Lidar

open Text (IsSign padded trim)

/-- A model is named by each of its names in any case of letters. -/
def Model.IsNamed (m : Model) (text : List Char) : Prop :=
  ∃ name ∈ m.names, text.map Char.toUpper = name.toList

theorem Model.read_eq_ok_iff {m : Model} {s : List Char} :
    Model.read s = .ok m ↔ m.IsNamed (trim s) := by
  have named : m.IsNamed (trim s) ↔ String.ofList ((trim s).map Char.toUpper) ∈ m.names := by
    constructor
    · rintro ⟨name, listed, same⟩
      rwa [same, String.ofList_toList]
    · intro listed
      exact ⟨_, listed, String.toList_ofList.symm⟩
  rw [named, Model.read]
  generalize String.ofList ((trim s).map Char.toUpper) = word
  constructor
  · intro read
    split at read
    · next found =>
      rw [← Except.ok.inj read]
      have listed := List.find?_some found
      exact List.contains_iff_mem.1 listed
    · cases read
  · intro listed
    have only : all.find? (·.names.contains word) = some m := by
      cases m <;> simp only [names, List.mem_cons, List.not_mem_nil, or_false] at listed <;>
        rcases listed with rfl | rfl | rfl <;> rfl
    rw [only]

theorem Model.eq_of_read_eq_error {s : List Char} {e : UnknownModel}
    (failed : Model.read s = .error e) : e = ⟨String.ofList s⟩ := by
  rw [Model.read] at failed
  split at failed
  · cases failed
  · exact (Except.error.inj failed).symm

namespace Params

/-- The keys that have a meaning. -/
inductive Key where
  | model
  | correctionFile
  | fireTimesFile
  | channelConfigFile
  | checked (key : CheckedKey)
deriving DecidableEq

namespace Key

def name : Key → String
  | model => "lidar_type"
  | correctionFile => "correction_file"
  | fireTimesFile => "firetimes_file"
  | channelConfigFile => "channel_config_file"
  | checked key => key.name

/-- What can be set under a key. -/
def Value : Key → Type
  | model => Option Model
  | correctionFile | fireTimesFile | channelConfigFile => Option String
  | checked .ip | checked .hostIp => IPv4
  | checked .multicastIp => Option IPv4
  | checked .udpPort | checked .ptcPort => UInt16

/-- A text stands for a path. The empty path is no path. -/
def IsPath (path : Option String) (text : List Char) : Prop :=
  path ≠ some "" ∧ text = (path.getD "").toList

/-- A text stands for a port: a sign may stand in front, and so may zeros. -/
def IsPort (port : UInt16) (text : List Char) : Prop :=
  ∃ sign zeros, IsSign sign ∧ text = sign ++ padded zeros port.toNat

/-- A text stands for a value. There is none for an unset model. -/
def Stands : (k : Key) → k.Value → List Char → Prop
  | model => fun m text => ∃ m' : Model, m = some m' ∧ m'.IsNamed text
  | correctionFile | fireTimesFile | channelConfigFile => IsPath
  | checked .ip | checked .hostIp => fun ip text => text = ip.render.toList
  | checked .multicastIp => fun ip text => text = (ip.elim "" IPv4.render).toList
  | checked .udpPort | checked .ptcPort => IsPort

/-- A text that stands for no value, and the complaint about it. -/
inductive Refuses : Key → List Char → ParamsError → Prop where
  | model {value : List Char} (none : ∀ v, ¬model.Stands v value) :
      Refuses model value (.model ⟨String.ofList value⟩)
  | checked {value : List Char} {key : CheckedKey} (none : ∀ v, ¬(checked key).Stands v value) :
      Refuses (checked key) value (.invalidValue key (String.ofList value))

/-- The value of a text. -/
def read : (k : Key) → List Char → Except ParamsError k.Value
  | model => fun value => ((Model.read value).mapError .model).map some
  | correctionFile | fireTimesFile | channelConfigFile => fun value => .ok (path value)
  | checked .ip => Params.checked .ip IPv4.read?
  | checked .hostIp => Params.checked .hostIp IPv4.read?
  | checked .multicastIp => optionalIp
  | checked .udpPort => Params.checked .udpPort port?
  | checked .ptcPort => Params.checked .ptcPort port?

end Key

/-- What is set under a key. -/
def get (p : Params) : (k : Key) → k.Value
  | .model => p.model
  | .correctionFile => p.correctionFile
  | .fireTimesFile => p.fireTimesFile
  | .channelConfigFile => p.channelConfigFile
  | .checked .ip => p.ip
  | .checked .hostIp => p.hostIp
  | .checked .multicastIp => p.multicastIp
  | .checked .udpPort => p.udpPort
  | .checked .ptcPort => p.ptcPort

def put (p : Params) : (k : Key) → k.Value → Params
  | .model => fun m => { p with model := m }
  | .correctionFile => fun path => { p with correctionFile := path }
  | .fireTimesFile => fun path => { p with fireTimesFile := path }
  | .channelConfigFile => fun path => { p with channelConfigFile := path }
  | .checked .ip => fun ip => { p with ip }
  | .checked .hostIp => fun ip => { p with hostIp := ip }
  | .checked .multicastIp => fun ip => { p with multicastIp := ip }
  | .checked .udpPort => fun port => { p with udpPort := port }
  | .checked .ptcPort => fun port => { p with ptcPort := port }

variable {p q : Params} {k : Key} {value : List Char} {e : ParamsError}

theorem get_put (p : Params) (k : Key) (v : k.Value) :
    (p.put k v).get = Function.update p.get k v := by
  funext j
  rcases k with _ | _ | _ | _ | (_ | _ | _ | _ | _) <;>
    rcases j with _ | _ | _ | _ | (_ | _ | _ | _ | _) <;> rfl

theorem eq_of_get_eq (same : ∀ k, p.get k = q.get k) : p = q := by
  cases p
  cases q
  rw [Params.mk.injEq]
  exact ⟨same .model, same .correctionFile, same .fireTimesFile, same .channelConfigFile,
    same (.checked .ip), same (.checked .hostIp), same (.checked .multicastIp),
    same (.checked .udpPort), same (.checked .ptcPort)⟩

theorem set_name (p : Params) (k : Key) (value : List Char) :
    p.set k.name value = (k.read value).map (p.put k) := by
  cases k with
  | model =>
    dsimp only [Key.name, Key.read, set]
    cases Model.read value <;> rfl
  | correctionFile | fireTimesFile | channelConfigFile => rfl
  | checked key =>
    cases key with dsimp only [Key.name, CheckedKey.name, Key.read, set, checked]
    | ip | hostIp => cases IPv4.read? value <;> rfl
    | multicastIp => cases optionalIp value <;> rfl
    | udpPort | ptcPort => cases port? value <;> rfl

theorem set_unknown {key : String} (unknown : ∀ k : Key, key ≠ k.name) :
    p.set key value = .ok p := by
  unfold set
  split
  · exact absurd rfl (unknown .model)
  · exact absurd rfl (unknown .correctionFile)
  · exact absurd rfl (unknown .fireTimesFile)
  · exact absurd rfl (unknown .channelConfigFile)
  · exact absurd rfl (unknown (.checked .ip))
  · exact absurd rfl (unknown (.checked .hostIp))
  · exact absurd rfl (unknown (.checked .multicastIp))
  · exact absurd rfl (unknown (.checked .udpPort))
  · exact absurd rfl (unknown (.checked .ptcPort))
  · rfl

theorem checked_eq_ok_iff {α : Type} {key : CheckedKey} {read : List Char → Option α} {a : α} :
    checked key read value = .ok a ↔ read value = some a := by
  rw [checked]
  cases read value <;> simp

theorem isPath_iff {file : Option String} : Key.IsPath file value ↔ path value = file := by
  constructor
  · rintro ⟨full, rfl⟩
    cases file with
    | none => rfl
    | some name =>
      have some : name.toList.isEmpty ≠ true := by
        rw [ne_eq, List.isEmpty_iff, String.toList_eq_nil_iff]
        intro none
        exact full (congrArg Option.some none)
      rw [Option.getD_some, path, if_neg some, String.ofList_toList]
  · rintro rfl
    cases value with
    | nil => exact ⟨nofun, rfl⟩
    | cons c rest =>
      refine ⟨?_, String.toList_ofList.symm⟩
      intro none
      exact List.cons_ne_nil c rest (String.ofList_eq_empty_iff.1 (Option.some.inj none))

theorem isPort_iff {port : UInt16} : Key.IsPort port value ↔ port? value = some port := by
  rw [port?, Option.map_eq_some_iff]
  constructor
  · rintro ⟨sign, zeros, signed, rfl⟩
    refine ⟨port.toNat, ?_, UInt16.ofNat_toNat⟩
    exact Text.natural?_eq_some_iff.2 ⟨UInt16.toNat_lt port, sign, zeros, signed, rfl⟩
  · rintro ⟨n, read, rfl⟩
    obtain ⟨below, sign, zeros, signed, rfl⟩ := Text.natural?_eq_some_iff.1 read
    exact ⟨sign, zeros, signed, by rw [UInt16.toNat_ofNat_of_lt' below]⟩

theorem optionalIp_eq_ok_iff {ip : Option IPv4} :
    optionalIp value = .ok ip ↔ value = (ip.elim "" IPv4.render).toList := by
  have full (ip : IPv4) : ip.render.toList ≠ [] := by
    intro none
    have read : IPv4.read? [] = some ip := IPv4.read?_eq_some_iff.2 none.symm
    cases read
  cases value with
  | nil =>
    have unset : optionalIp [] = .ok none := rfl
    rw [unset, Except.ok.injEq]
    cases ip with
    | none => simp
    | some ip => simpa using (full ip).symm
  | cons c rest =>
    have set : optionalIp (c :: rest) =
      (checked .multicastIp IPv4.read? (c :: rest)).map some := rfl
    rw [set, map_eq_ok_iff]
    cases ip with
    | none => simp
    | some ip => simp [checked_eq_ok_iff, IPv4.read?_eq_some_iff]

theorem readModel_eq_ok_iff (bare : trim value = value) {m : Option Model} :
    Key.model.read value = .ok m ↔ Key.model.Stands m value := by
  dsimp only [Key.read, Key.Stands]
  cases read : Model.read value with
  | error e =>
    refine iff_of_false nofun ?_
    rintro ⟨m', -, named⟩
    rw [← bare, ← Model.read_eq_ok_iff, read] at named
    cases named
  | ok m' =>
    have named (other : Model) : other.IsNamed value ↔ m' = other := by
      rw [← bare, ← Model.read_eq_ok_iff, read, Except.ok.injEq]
    constructor
    · intro same
      exact ⟨m', (Except.ok.inj same).symm, (named m').2 rfl⟩
    · rintro ⟨other, rfl, isNamed⟩
      rw [(named other).1 isNamed]
      rfl

namespace Key

theorem read_eq_ok_iff {v : k.Value} (bare : trim value = value) :
    k.read value = .ok v ↔ k.Stands v value := by
  have isPath {file : Option String} :
      (.ok (path value) : Except ParamsError (Option String)) = .ok file ↔ IsPath file value := by
    rw [Except.ok.injEq, isPath_iff]
  cases k with
  | model => exact readModel_eq_ok_iff bare
  | correctionFile | fireTimesFile | channelConfigFile => exact isPath
  | checked key =>
    cases key with
    | ip | hostIp => exact checked_eq_ok_iff.trans IPv4.read?_eq_some_iff
    | multicastIp => exact optionalIp_eq_ok_iff
    | udpPort | ptcPort => exact checked_eq_ok_iff.trans isPort_iff.symm

/-- A complaint names the key and quotes the value. -/
theorem refuses_of_read (bare : trim value = value) (failed : k.read value = .error e) :
    k.Refuses value e := by
  have none (v : k.Value) : ¬k.Stands v value := by
    rw [← read_eq_ok_iff bare, failed]
    exact nofun
  have quoted {α : Type} {key : CheckedKey} {read : List Char → Option α}
      (failed : Params.checked key read value = .error e) :
      e = .invalidValue key (String.ofList value) := by
    rw [Params.checked] at failed
    cases h : read value with
    | none =>
      rw [h] at failed
      exact (Except.error.inj failed).symm
    | some a =>
      rw [h] at failed
      cases failed
  cases k with
  | model =>
    dsimp only [read] at failed
    cases h : Model.read value with
    | ok m =>
      rw [h] at failed
      cases failed
    | error u =>
      rw [h] at failed
      obtain rfl := Except.error.inj failed
      rw [Model.eq_of_read_eq_error h]
      exact .model none
  | correctionFile | fireTimesFile | channelConfigFile => cases failed
  | checked key =>
    have quote : e = .invalidValue key (String.ofList value) := by
      cases key with
      | ip | hostIp | udpPort | ptcPort => exact quoted failed
      | multicastIp =>
        dsimp only [read, optionalIp] at failed
        split at failed
        · cases failed
        · exact quoted (map_eq_error_iff.1 failed)
    rw [quote]
    exact .checked none

theorem Refuses.unique {e' : ParamsError} (he : k.Refuses value e) (he' : k.Refuses value e') :
    e = e' := by
  cases he <;> cases he' <;> rfl

theorem read_eq_error_iff (bare : trim value = value) :
    k.read value = .error e ↔ k.Refuses value e := by
  constructor
  · exact refuses_of_read bare
  · intro refused
    cases read : k.read value with
    | error e' => rw [refused.unique (refuses_of_read bare read)]
    | ok v =>
      have stands := (read_eq_ok_iff bare).1 read
      cases refused with
      | model none => exact absurd stands (none v)
      | checked none => exact absurd stands (none v)

end Key

/-- A text that stands between white space and commas as it is. -/
def IsSound (text : List Char) : Prop := trim text = text ∧ ',' ∉ text

/-- A path that can be written: not empty, without commas and without white space at its ends. -/
def IsTidy (path : String) : Prop := path ≠ "" ∧ IsSound path.toList

/-- All paths that are set can be written. -/
def Tidy (p : Params) : Prop :=
  ∀ path, some path ∈ [p.correctionFile, p.fireTimesFile, p.channelConfigFile] → IsTidy path

theorem Key.name_isSound (k : Key) : '=' ∉ k.name.toList ∧ IsSound k.name.toList := by
  rcases k with _ | _ | _ | _ | (_ | _ | _ | _ | _) <;> exact ⟨by decide, by decide, by decide⟩

theorem exists_isPath {file : Option String} (tidy : ∀ path, file = some path → IsTidy path) :
    ∃ value, Key.IsPath file value ∧ IsSound value := by
  cases file with
  | none => exact ⟨[], ⟨nofun, rfl⟩, rfl, List.not_mem_nil⟩
  | some path =>
    obtain ⟨full, sound⟩ := tidy path rfl
    refine ⟨path.toList, ⟨?_, rfl⟩, sound⟩
    rintro ⟨⟩
    exact full rfl

theorem isSound_render (ip : IPv4) : IsSound ip.render.toList := by
  have solid : ∀ c ∈ ip.render.toList, Text.isBlank c = false ∧ c ≠ ',' := by
    intro c listed
    rcases IPv4.isDigit_or_dot_of_mem_render listed with digit | rfl
    · refine ⟨Text.not_isBlank_of_isDigit digit, ?_⟩
      rintro rfl
      cases digit
    · decide
  exact ⟨Text.trim_of_not_blank fun c listed => (solid c listed).1,
    fun listed => (solid ',' listed).2 rfl⟩

theorem exists_isPort (port : UInt16) : ∃ value, Key.IsPort port value ∧ IsSound value :=
  ⟨Text.numeral port.toNat, ⟨[], 0, .inl rfl, rfl⟩, Text.trim_numeral _, Text.not_mem_numeral rfl⟩

/-- What is set under a key has a text, unless it is a model that is not set. -/
theorem exists_stands (tidy : p.Tidy) (named : p.model = none → k ≠ .model) :
    ∃ value, k.Stands (p.get k) value ∧ IsSound value := by
  have path : ∀ file ∈ [p.correctionFile, p.fireTimesFile, p.channelConfigFile],
      ∃ value, Key.IsPath file value ∧ IsSound value := by
    intro file listed
    apply exists_isPath
    rintro path rfl
    exact tidy path listed
  cases k with
  | model =>
    obtain ⟨m, set⟩ := Option.ne_none_iff_exists'.1 fun unset => named unset rfl
    have isNamed : m.IsNamed m.name.toList ∧ IsSound m.name.toList := by
      cases m <;> exact ⟨⟨_, List.mem_cons_self, by decide⟩, by decide, by decide⟩
    exact ⟨m.name.toList, ⟨m, set, isNamed.1⟩, isNamed.2⟩
  | correctionFile => exact path p.correctionFile (by simp)
  | fireTimesFile => exact path p.fireTimesFile (by simp)
  | channelConfigFile => exact path p.channelConfigFile (by simp)
  | checked key =>
    cases key with
    | ip | hostIp => exact ⟨_, rfl, isSound_render _⟩
    | multicastIp =>
      refine ⟨_, rfl, ?_⟩
      cases p.get (.checked .multicastIp) with
      | none => exact ⟨rfl, List.not_mem_nil⟩
      | some ip => exact isSound_render ip
    | udpPort | ptcPort => exact exists_isPort _

end Params

end Lidar
