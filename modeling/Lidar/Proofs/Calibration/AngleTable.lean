import Lidar.Calibration.AngleCorrection
import Lidar.Proofs.Text.Sheets

namespace Lidar.AngleCorrection

variable {maxChannels known : Nat}

/-- An angle in degrees as thousandths of a degree. What is not finite is no angle. -/
def angle? (text : List Char) : Option Int := do
  let degrees ← Text.Decimal.read? text
  if degrees.toFloat.isFinite then some (nearestInt32 (degrees.toFloat * 1000.0)) else none

/-- The first field of a line is a number. -/
def Numbered (line : List Char) : Prop :=
  (Text.integer? (Text.fieldAt (Text.fields line) 0)).isSome = true

/-- A line lists a laser: its id and its angles are the first three fields. -/
structure Lists (line : List Char) (id : Nat) (d : Direction) : Prop where
  id : Text.integer? (Text.fieldAt (Text.fields line) 0) = some (id : Int)
  elevation : angle? (Text.fieldAt (Text.fields line) 1) = some d.elevation
  azimuth : angle? (Text.fieldAt (Text.fields line) 2) = some d.azimuth

/-- The header in front of a table are the lines without a number, but not more than two. -/
structure Headed (header table : List (List Char)) : Prop where
  few : header.length ≤ 2
  plain : ∀ line ∈ header, ¬Numbered line
  longest : header.length < 2 → ∀ line ∈ table.head?, Numbered line

/-- The lines of a table that are not blank list the channels one after the other. -/
structure Tabulates (maxChannels : Nat) (table : List (List Char)) (c : AngleCorrection) :
    Prop where
  listed : 1 ≤ c.size
  fits : c.size ≤ maxChannels
  count : (table.filter (!·.isEmpty)).length = c.size
  rows : ∀ k line d, (table.filter (!·.isEmpty))[k]? = some line → c.channels[k]? = some d →
    Lists line (k + 1) d

section Reading

variable {l : Text.Line} {ls table : List Text.Line} {d : Direction} {ds : List Direction}

theorem readAngle_eq_ok_iff {line : Nat} {text : List Char} {x : Int} :
    readAngle line text = .ok x ↔ angle? text = some x := by
  rw [readAngle, bind_eq_ok_iff, angle?, Option.bind_eq_bind, Option.bind_eq_some_iff]
  refine exists_congr fun degrees => and_congr Text.readField_eq_ok_iff ?_
  dsimp only
  split
  · exact ⟨fun made => congrArg some (Except.ok.inj made), fun made =>
      congrArg Except.ok (Option.some.inj made)⟩
  · exact iff_of_false nofun nofun

theorem isDataLine_iff : isDataLine l = true ↔ Numbered (Text.trim l.text) := by
  rw [isDataLine, Numbered, Text.fields_trim]

theorem readLine_eq_ok_iff :
    readLine maxChannels known l = .ok d ↔
      known + 1 ≤ maxChannels ∧ Lists (Text.trim l.text) (known + 1) d := by
  rw [readLine]
  simp only [bind_eq_ok_iff, guard_eq_ok_iff, Text.readField_eq_ok_iff, readAngle_eq_ok_iff]
  constructor
  · rintro ⟨id, numbered, follows, elevation, up, azimuth, around, made⟩
    obtain rfl := Except.ok.inj made
    rw [not_or, not_not, Nat.not_lt] at follows
    obtain ⟨rfl, fits⟩ := follows
    rw [← Text.fields_trim] at numbered up around
    exact ⟨fits, numbered, up, around⟩
  · rintro ⟨fits, numbered, up, around⟩
    rw [Text.fields_trim] at numbered up around
    exact ⟨_, numbered, by simpa using fits, _, up, _, around, rfl⟩

theorem readLines_eq_ok_iff :
    readLines maxChannels known ls = .ok ds ↔ ls.length = ds.length ∧
      ∀ k l d, ls[k]? = some l → ds[k]? = some d →
        known + k + 1 ≤ maxChannels ∧ Lists (Text.trim l.text) (known + k + 1) d := by
  induction ls generalizing known ds with
  | nil =>
    cases ds <;> simp [readLines]
  | cons l ls ih =>
    rw [readLines, bind_eq_ok_iff]
    simp only [bind_eq_ok_iff, readLine_eq_ok_iff, ih]
    constructor
    · rintro ⟨d, first, ds, ⟨count, rest⟩, made⟩
      obtain rfl := Except.ok.inj made
      refine ⟨congrArg (· + 1) count, fun k => ?_⟩
      cases k with
      | zero =>
        rintro _ _ ⟨⟩ ⟨⟩
        exact first
      | succ k =>
        intro m e hm he
        have later := rest k m e hm he
        rwa [Nat.add_right_comm known 1 k] at later
    · rintro ⟨count, rows⟩
      cases ds with
      | nil => cases count
      | cons d ds =>
        refine ⟨d, rows 0 l d rfl rfl, ds, ⟨Nat.succ.inj count, fun k m e hm he => ?_⟩, rfl⟩
        rw [Nat.add_right_comm known 1 k]
        exact rows (k + 1) m e hm he

theorem exists_skipHeader (n : Nat) (ls : List Text.Line) :
    ∃ header, ls = header ++ skipHeader n ls ∧ header.length ≤ n ∧
      (∀ l ∈ header, ¬isDataLine l = true) ∧
      (header.length < n → ∀ l ∈ (skipHeader n ls).head?, isDataLine l = true) := by
  fun_induction skipHeader n ls with
  | case1 n l rest numbered => exact ⟨[], by simp [numbered]⟩
  | case2 n l rest plain ih =>
    obtain ⟨header, same, few, none, longest⟩ := ih
    exact ⟨l :: header, congrArg (l :: ·) same, Nat.succ_le_succ few,
      List.forall_mem_cons.2 ⟨plain, none⟩, fun h => longest (Nat.lt_of_succ_lt_succ h)⟩
  | case3 n ls other =>
    refine ⟨[], rfl, Nat.zero_le n, by simp, fun room l first => ?_⟩
    obtain ⟨m, rfl⟩ := Nat.exists_eq_succ_of_ne_zero (Nat.ne_of_gt room)
    obtain ⟨rest, rfl⟩ := List.head?_eq_some_iff.1 first
    exact absurd rfl (other m l rest rfl)

theorem skipHeader_append {header : List Text.Line} {n : Nat} (few : header.length ≤ n)
    (plain : ∀ l ∈ header, ¬isDataLine l = true)
    (longest : header.length < n → ∀ l ∈ table.head?, isDataLine l = true) :
    skipHeader n (header ++ table) = table := by
  induction header generalizing n with
  | nil =>
    cases n with
    | zero => cases table <;> rfl
    | succ n =>
      cases table with
      | nil => rfl
      | cons l rest =>
        rw [List.nil_append, skipHeader, if_pos (longest (Nat.succ_pos n) l rfl)]
  | cons l header ih =>
    obtain ⟨n, rfl⟩ := Nat.exists_eq_succ_of_ne_zero (Nat.ne_zero_of_lt few)
    obtain ⟨first, rest⟩ := List.forall_mem_cons.1 plain
    rw [List.cons_append, skipHeader, if_neg first]
    exact ih (Nat.le_of_succ_le_succ few) rest fun h => longest (Nat.succ_lt_succ h)

/-- Numbered lines without the white space at their ends. -/
def trimmed (ls : List Text.Line) : List (List Char) := ls.map fun l => Text.trim l.text

theorem headed_trimmed_iff {header table : List Text.Line} :
    Headed (trimmed header) (trimmed table) ↔ header.length ≤ 2 ∧
      (∀ l ∈ header, ¬isDataLine l = true) ∧
      (header.length < 2 → ∀ l ∈ table.head?, isDataLine l = true) := by
  simp only [isDataLine_iff]
  constructor
  · rintro ⟨few, plain, longest⟩
    rw [trimmed, List.length_map] at few longest
    refine ⟨few, fun l listed => plain _ (List.mem_map_of_mem listed), fun short l first => ?_⟩
    refine longest short _ ?_
    rw [trimmed, List.head?_map, first]
    rfl
  · rintro ⟨few, plain, longest⟩
    refine ⟨by rwa [trimmed, List.length_map], List.forall_mem_map.2 plain, ?_⟩
    intro short line first
    rw [trimmed, List.length_map] at short
    rw [trimmed, List.head?_map] at first
    obtain ⟨l, head, rfl⟩ := Option.map_eq_some_iff.1 first
    exact longest short l head

theorem tabulates_trimmed_iff {ls : List Text.Line} :
    Tabulates maxChannels (trimmed ls) ⟨ds.toArray⟩ ↔
      readLines maxChannels 0 (ls.filter (!·.isBlank)) = .ok ds ∧ ¬ds.isEmpty = true := by
  have size : (⟨ds.toArray⟩ : AngleCorrection).size = ds.length := rfl
  have filled : (trimmed ls).filter (!·.isEmpty) =
      (ls.filter (!·.isBlank)).map fun l => Text.trim l.text := (Text.map_trim_filter ls).symm
  rw [readLines_eq_ok_iff, List.isEmpty_iff_length_eq_zero]
  constructor
  · rintro ⟨listed, fits, count, rows⟩
    rw [filled] at count rows
    rw [List.length_map, size] at count
    rw [size] at listed fits
    refine ⟨⟨count, fun k l d hl hd => ?_⟩, by omega⟩
    obtain ⟨inside, -⟩ := List.getElem?_eq_some_iff.1 hd
    rw [Nat.zero_add]
    refine ⟨by omega, rows k _ d ?_ (by simpa using hd)⟩
    rw [List.getElem?_map, hl, Option.map_some]
  · rintro ⟨⟨count, rows⟩, listed⟩
    have last : ds.length - 1 < ds.length := by omega
    obtain ⟨fits, -⟩ := rows (ds.length - 1) _ _
      (List.getElem?_eq_getElem (count ▸ last)) (List.getElem?_eq_getElem last)
    refine ⟨by omega, by omega, ?_, fun k line d hl hd => ?_⟩
    · rw [filled, List.length_map, count, size]
    · rw [filled, List.getElem?_map] at hl
      obtain ⟨l, found, rfl⟩ := Option.map_eq_some_iff.1 hl
      have row := (rows k l d found (by simpa using hd)).2
      rwa [Nat.zero_add] at row

theorem parse_eq_ok_iff {b : Bytes} {c : AngleCorrection} :
    parse b maxChannels = .ok c ↔ ∃ header table,
      Text.trimmedLines? b = some (header ++ table) ∧ Headed header table ∧
        Tabulates maxChannels table c := by
  rw [parse]
  simp only [bind_eq_ok_iff, guard_eq_ok_iff, Text.ofBlob_eq_ok_iff]
  constructor
  · rintro ⟨text, decoded, -, ds, read, listed, made⟩
    obtain rfl := Except.ok.inj made
    obtain ⟨header, whole, headed⟩ := exists_skipHeader 2 (Text.numbered text)
    refine ⟨trimmed header, trimmed (skipHeader 2 (Text.numbered text)), ?_,
      headed_trimmed_iff.2 headed, tabulates_trimmed_iff.2 ⟨read, listed⟩⟩
    rw [Text.trimmedLines?, decoded, Option.map_some, Text.trimmedLines_eq]
    conv_lhs => rw [whole, List.map_append]
    rfl
  · rintro ⟨header, table, read, headed, tabulated⟩
    obtain ⟨text, decoded, lines⟩ := Option.map_eq_some_iff.1 read
    have filled : ¬Text.allBlank text = true := by
      intro blank
      have none : table.filter (!·.isEmpty) = [] := by
        rw [List.filter_eq_nil_iff]
        intro line listed
        rw [Text.trimmedLines_of_allBlank blank line (lines ▸ List.mem_append_right header listed)]
        exact Bool.false_ne_true
      have count := tabulated.count
      have listed := tabulated.listed
      rw [none, List.length_nil] at count
      omega
    rw [Text.trimmedLines_eq] at lines
    obtain ⟨first, behind, whole, rfl, rfl⟩ := List.map_eq_append_iff.1 lines
    obtain ⟨few, plain, longest⟩ := headed_trimmed_iff.1 headed
    obtain ⟨made, listed⟩ := tabulates_trimmed_iff.1 tabulated
    refine ⟨text, decoded, filled, c.channels.toList, ?_, listed, rfl⟩
    rw [whole, skipHeader_append few plain longest]
    exact made

end Reading

/-- A line of a table as it is written. Its fields may stand between white space, and further
fields may follow. -/
structure Row where
  id : List Char
  elevation : List Char
  azimuth : List Char
  surplus : List (List Char)

namespace Row

def fields (r : Row) : List (List Char) := r.id :: r.elevation :: r.azimuth :: r.surplus

def line (r : Row) : List Char := Text.joinFields r.fields

/-- What a row says. -/
structure States (r : Row) (id : Nat) (d : Direction) : Prop where
  whole : ∀ f ∈ r.fields, ',' ∉ f
  id : Text.integer? (Text.trim r.id) = some (id : Int)
  elevation : angle? (Text.trim r.elevation) = some d.elevation
  azimuth : angle? (Text.trim r.azimuth) = some d.azimuth

theorem States.lists {r : Row} {id : Nat} {d : Direction} (states : r.States id d) :
    Lists r.line id d := by
  have read : Text.fields r.line = r.fields.map Text.trim :=
    Text.fields_joinFields (List.cons_ne_nil _ _) states.whole
  constructor <;> rw [read]
  · exact states.id
  · exact states.elevation
  · exact states.azimuth

end Row

/-- A sheet with a table: a header, then the rows, of which the first follows at once and the others
may have blank lines among them. -/
structure Writes (s : Text.Sheet) (header table : List (List Char)) (rows : List Row)
    (c : AngleCorrection) : Prop where
  lines : s.lines = header ++ table
  few : header.length ≤ 2
  plain : ∀ line ∈ header, ¬Numbered line
  first : ∀ line ∈ table.head?, Text.allBlank line = false
  written : Text.Spaced (rows.map Row.line) table
  count : rows.length = c.size
  states : ∀ k (r : Row) d, rows[k]? = some r → c.channels[k]? = some d → r.States (k + 1) d

theorem numbered_trim_iff {line : List Char} : Numbered (Text.trim line) ↔ Numbered line := by
  rw [Numbered, Numbered, Text.fields_trim]

theorem Lists.trim {line : List Char} {id : Nat} {d : Direction} (lists : Lists line id d) :
    Lists (Text.trim line) id d := by
  constructor <;> rw [Text.fields_trim]
  · exact lists.id
  · exact lists.elevation
  · exact lists.azimuth

theorem Lists.numbered {line : List Char} {id : Nat} {d : Direction} (lists : Lists line id d) :
    Numbered line := by
  rw [Numbered, lists.id]
  rfl

variable {s : Text.Sheet} {header table : List (List Char)} {rows : List Row} {c : AngleCorrection}

/-- A blank line has no number. -/
theorem Lists.filled {line : List Char} {id : Nat} {d : Direction} (lists : Lists line id d) :
    Text.allBlank line = false := by
  rw [← Bool.not_eq_true]
  intro blank
  have numbered := lists.numbered
  rw [Numbered, Text.fields_of_allBlank blank] at numbered
  exact absurd numbered (by decide)

theorem Writes.headed (writes : Writes s header table rows c) :
    Headed (header.map Text.trim) (table.map Text.trim) := by
  refine ⟨?_, ?_, fun _ line first => ?_⟩
  · rw [List.length_map]
    exact writes.few
  · exact List.forall_mem_map.2 fun line listed => mt numbered_trim_iff.1 (writes.plain line listed)
  · rw [List.head?_map] at first
    obtain ⟨l, head, rfl⟩ := Option.map_eq_some_iff.1 first
    obtain ⟨behind, rfl⟩ := List.head?_eq_some_iff.1 head
    have written := writes.written
    generalize hlines : rows.map Row.line = lines at written
    cases written with
    | blank empty => exact absurd (empty.symm.trans (writes.first l rfl)) (by decide)
    | line =>
      obtain ⟨r, rest, rfl, rfl, -⟩ := List.map_eq_cons_iff.1 hlines
      have room : 0 < c.channels.size := Nat.lt_of_lt_of_eq (Nat.succ_pos rest.length) writes.count
      have states := writes.states 0 r _ rfl (Array.getElem?_eq_getElem room)
      exact states.lists.trim.numbered

theorem Writes.tabulates (writes : Writes s header table rows c) (listed : 1 ≤ c.size)
    (fits : c.size ≤ maxChannels) : Tabulates maxChannels (table.map Text.trim) c := by
  have each : ∀ line ∈ rows.map Row.line, Text.allBlank line = false := by
    refine List.forall_mem_map.2 fun r inTable => ?_
    obtain ⟨k, found⟩ := List.mem_iff_getElem?.1 inTable
    obtain ⟨inside, -⟩ := List.getElem?_eq_some_iff.1 found
    have room : k < c.channels.size := Nat.lt_of_lt_of_eq inside writes.count
    exact (writes.states k r _ found (Array.getElem?_eq_getElem room)).lists.filled
  have filled : (table.map Text.trim).filter (!·.isEmpty) = rows.map fun r => Text.trim r.line := by
    rw [List.filter_map]
    simp only [Function.comp_def, Text.isEmpty_trim, writes.written.filter_of_filled each,
      List.map_map]
  refine ⟨listed, fits, ?_, fun k line d hl hd => ?_⟩
  · rw [filled, List.length_map, writes.count]
  · rw [filled, List.getElem?_map] at hl
    obtain ⟨r, found, rfl⟩ := Option.map_eq_some_iff.1 hl
    exact (writes.states k r d found hd).lists.trim

/-- A text is accepted exactly if its lines are a header and a table, and then as what the table
lists. However such a table is written, it is read back. -/
theorem listed_angles_accepted (maxChannels : Nat) :
    (∀ b c, parse b maxChannels = .ok c ↔ ∃ header table,
      Text.trimmedLines? b = some (header ++ table) ∧ Headed header table ∧
        Tabulates maxChannels table c) ∧
    ∀ (s : Text.Sheet) header table rows c, Writes s header table rows c → 1 ≤ c.size →
      c.size ≤ maxChannels → parse s.bytes maxChannels = .ok c := by
  refine ⟨fun b c => parse_eq_ok_iff, fun s header table rows c writes listed fits => ?_⟩
  refine parse_eq_ok_iff.2 ⟨_, _, ?_, writes.headed, writes.tabulates listed fits⟩
  rw [Text.Sheet.trimmedLines?_bytes, writes.lines, List.map_append]

/-- Two lasers behind two lines of header, with both kinds of line ends, a blank line, white space
around fields, a fourth field, and no end behind the last line. -/
def untidySheet : Text.Sheet where
  ended := [
    (['E', 'E', 'F', 'F', ',', '1', ',', '3'], .returnFeed),
    (['i', 'd'], .feed),
    ([' ', '1', ' ', ',', '1', '.', '5', ',', '-', '0', '.', '2', '5', '\t', ',', 'x'],
      .returnFeed),
    ([' '], .feed)]
  rest := ['+', '2', ',', '0', ',', '1', 'e', '1']
  unbroken := by decide
  rest_unbroken := by decide

def untidyRows : List Row :=
  [⟨[' ', '1', ' '], ['1', '.', '5'], ['-', '0', '.', '2', '5', '\t'], [['x']]⟩,
    ⟨['+', '2'], ['0'], ['1', 'e', '1'], []⟩]

theorem listed_angles_accepted_in_untidySheet :
    let c : AngleCorrection := ⟨#[⟨1500, -250⟩, ⟨0, 10000⟩]⟩
    Writes untidySheet (untidySheet.lines.take 2) (untidySheet.lines.drop 2) untidyRows c ∧
      1 ≤ c.size ∧ c.size ≤ 128 ∧ parse untidySheet.bytes 128 = .ok c := by
  intro c
  have writes : Writes untidySheet (untidySheet.lines.take 2) (untidySheet.lines.drop 2)
      untidyRows c := by
    refine ⟨rfl, by decide, ?_, by decide, ?_, rfl, fun k r d hr hd => ?_⟩
    · unfold Numbered
      decide +kernel
    · exact .line (.blank (by decide) (.line .nil))
    · match k with
      | 0 =>
        cases hr
        cases hd
        exact ⟨by decide, by decide, by decide +kernel, by decide +kernel⟩
      | 1 =>
        cases hr
        cases hd
        exact ⟨by decide, by decide, by decide +kernel, by decide +kernel⟩
      | k + 2 => cases hr
  exact ⟨writes, by decide, by decide,
    (listed_angles_accepted 128).2 _ _ _ _ _ writes (by decide) (by decide)⟩

end Lidar.AngleCorrection
