import Lidar.Calibration.LoadError
import Lidar.Proofs.Except
import Lidar.Proofs.Text.Fields

namespace Lidar

/-- A text as a table file holds it. -/
def Bytes.ofText (s : List Char) : Bytes := (String.ofList s).toByteArray.data

namespace Text

theorem ofBytes?_ofText (s : List Char) : ofBytes? (.ofText s) = some s := by
  have decoded : (String.ofList s).toByteArray.utf8Decode? = some s.toArray := by
    rw [String.toByteArray_ofList]
    exact List.utf8Decode?_utf8Encode
  rw [ofBytes?, Bytes.ofText, decoded]
  rfl

section Reading

variable {b : Bytes} {s : List Char}

theorem ofBlob_eq_ok_iff : ofBlob b = .ok s ↔ ofBytes? b = some s := by
  rw [ofBlob]
  cases ofBytes? b <;> simp

theorem ofBlob_ofText (s : List Char) : ofBlob (.ofText s) = .ok s :=
  ofBlob_eq_ok_iff.2 (ofBytes?_ofText s)

theorem readField_eq_ok_iff {α : Type} {read : List Char → Option α} {line : Nat} {x : α} :
    readField read line s = .ok x ↔ read s = some x := by
  rw [readField]
  cases read s <;> simp

theorem headerLine_eq_ok_iff {what : HeaderLine} {ls rest : List Line} {l : Line} :
    headerLine what ls = .ok (l, rest) ↔ ls = l :: rest := by
  cases ls <;> simp [headerLine]

/-- An id stands for a channel, which is counted from zero. -/
theorem laserId_eq_ok_iff {lasers line channel : Nat} :
    laserId lasers line s = .ok channel ↔
      integer? s = some ((channel + 1 : Nat) : Int) ∧ channel < lasers := by
  rw [laserId, bind_eq_ok_iff]
  simp only [readField_eq_ok_iff, guard_eq_ok_iff]
  constructor
  · rintro ⟨id, read, inside, made⟩
    obtain rfl := Except.ok.inj made
    rw [read]
    exact ⟨congrArg some (by omega), by omega⟩
  · rintro ⟨read, inside⟩
    exact ⟨_, read, by omega, rfl⟩

/-- The rows are the lines in front, as many as are asked for. -/
theorem readRows_eq_ok_iff {α : Type} {readRow : Line → Except LoadError α}
    {expected found count : Nat} {ls behind : List Line} {rows : List α} :
    readRows readRow expected found count ls = .ok (rows, behind) ↔
      ∃ table, ls = table ++ behind ∧ table.length = count ∧
        List.Forall₂ (fun l row => readRow l = .ok row) table rows := by
  induction count generalizing found ls rows behind with
  | zero =>
    rw [readRows, Except.ok.injEq, Prod.mk.injEq]
    constructor
    · rintro ⟨rfl, rfl⟩
      exact ⟨[], rfl, rfl, .nil⟩
    · rintro ⟨table, rfl, none, read⟩
      obtain rfl := List.eq_nil_of_length_eq_zero none
      exact ⟨(List.forall₂_nil_left_iff.1 read).symm, rfl⟩
  | succ count ih =>
    cases ls with
    | nil =>
      refine iff_of_false nofun ?_
      rintro ⟨table, nothing, count, -⟩
      rw [(List.append_eq_nil_iff.1 nothing.symm).1] at count
      cases count
    | cons l ls =>
      rw [readRows]
      simp only [bind_eq_ok_iff, Prod.exists, ih]
      constructor
      · rintro ⟨row, first, rows, behind, ⟨table, rfl, count, rest⟩, made⟩
        cases made
        exact ⟨l :: table, rfl, congrArg (· + 1) count, .cons first rest⟩
      · rintro ⟨table, same, count, read⟩
        cases read with
        | nil => cases count
        | cons first rest =>
          obtain ⟨rfl, rfl⟩ := List.cons.inj same
          exact ⟨_, first, _, _, ⟨_, rfl, Nat.succ.inj count, rest⟩, rfl⟩

/-- When the lines run out, rows are missing: the error tells how many there were. -/
theorem readRows_of_missing {α : Type} {readRow : Line → Except LoadError α}
    {expected found count : Nat} {ls : List Line} (rows : ∀ l ∈ ls, ∃ row, readRow l = .ok row)
    (missing : ls.length < count) :
    readRows readRow expected found count ls =
      .error (.lineCount expected (found + ls.length)) := by
  obtain ⟨count, rfl⟩ := Nat.exists_eq_succ_of_ne_zero (Nat.ne_zero_of_lt missing)
  induction ls generalizing found count with
  | nil => rfl
  | cons l ls ih =>
    obtain ⟨⟨row, first⟩, others⟩ := List.forall_mem_cons.1 rows
    have fewer : ls.length < count := Nat.lt_of_succ_lt_succ missing
    obtain ⟨count, rfl⟩ := Nat.exists_eq_succ_of_ne_zero (Nat.ne_zero_of_lt fewer)
    rw [readRows, first, ok_bind, ih others count fewer, List.length_cons, Nat.add_right_comm,
      Nat.add_assoc]
    rfl

/-- The lines of a text, without the white space at their ends. -/
def trimmedLines (s : List Char) : List (List Char) := (lines s).map trim

/-- The lines of a text that are not blank, without the white space at their ends. -/
def filledLines (s : List Char) : List (List Char) := (trimmedLines s).filter (!·.isEmpty)

/-- The lines of a table file, if it is a text. -/
def trimmedLines? (b : Bytes) : Option (List (List Char)) := (ofBytes? b).map trimmedLines

def filledLines? (b : Bytes) : Option (List (List Char)) := (ofBytes? b).map filledLines

theorem trimmedLines_eq (s : List Char) :
    trimmedLines s = (numbered s).map fun l => trim l.text := by
  have texts : (numbered s).map Line.text = lines s := by
    rw [numbered, List.map_map]
    exact List.zipIdx_map_fst 1 (lines s)
  rw [trimmedLines, ← texts, List.map_map]
  rfl

theorem isEmpty_trim (s : List Char) : (trim s).isEmpty = allBlank s := by
  rw [Bool.eq_iff_iff, List.isEmpty_iff, trim_eq_nil_iff]

theorem subset_of_mem_lines {l : List Char} (listed : l ∈ lines s) : l ⊆ s := by
  rw [lines, List.mem_append] at listed
  rcases listed with ended | last
  · obtain ⟨piece, cut, rfl⟩ := List.mem_map.1 ended
    have inside := (mem_splitOn (List.dropLast_subset _ cut)).2
    rw [dropReturn]
    split
    · exact fun c h => inside (List.dropLast_subset _ h)
    · exact inside
  · have cut := Option.mem_toList.1 (List.mem_of_mem_filter last)
    exact (mem_splitOn (List.mem_of_getLast? cut)).2

/-- A blank text has blank lines only. -/
theorem trimmedLines_of_allBlank (blank : allBlank s = true) :
    ∀ line ∈ trimmedLines s, line = [] := by
  intro line listed
  obtain ⟨l, read, rfl⟩ := List.mem_map.1 listed
  exact trim_of_allBlank
    (List.all_eq_true.2 fun c h => List.all_eq_true.1 blank c (subset_of_mem_lines read h))

/-- What is left of numbered lines when blank ones are dropped. -/
theorem map_trim_filter (ls : List Line) :
    (ls.filter (!·.isBlank)).map (fun l => trim l.text) =
      (ls.map fun l => trim l.text).filter (!·.isEmpty) := by
  rw [List.filter_map]
  congr 1
  apply List.filter_congr
  intro l _
  rw [Function.comp_apply, isEmpty_trim, Line.isBlank]

theorem filledLines_eq (s : List Char) :
    filledLines s = ((numbered s).filter (!·.isBlank)).map fun l => trim l.text := by
  rw [filledLines, trimmedLines_eq, map_trim_filter]

/-- The three lines of header of a table, and the lines behind them. -/
theorem filledLines?_eq_some_iff {version size columns : List Char} {body : List (List Char)} :
    filledLines? b = some (version :: size :: columns :: body) ↔
      ∃ (text : List Char) (v s k : Line) (ls : List Line),
        ofBytes? b = some text ∧ (numbered text).filter (!·.isBlank) = v :: s :: k :: ls ∧
        trim v.text = version ∧ trim s.text = size ∧ trim k.text = columns ∧
        (ls.map fun l => trim l.text) = body := by
  rw [filledLines?, Option.map_eq_some_iff]
  simp only [filledLines_eq]
  constructor
  · rintro ⟨text, decoded, lines⟩
    obtain ⟨v, _, whole, first, others⟩ := List.map_eq_cons_iff.1 lines
    obtain ⟨s, _, rfl, second, others⟩ := List.map_eq_cons_iff.1 others
    obtain ⟨k, ls, rfl, third, rest⟩ := List.map_eq_cons_iff.1 others
    exact ⟨text, v, s, k, ls, decoded, whole, first, second, third, rest⟩
  · rintro ⟨text, v, s, k, ls, decoded, whole, rfl, rfl, rfl, rfl⟩
    exact ⟨text, decoded, by rw [whole, List.map_cons, List.map_cons, List.map_cons]⟩

end Reading

/-- Lines with blank lines put in anywhere among them. -/
inductive Spaced : List (List Char) → List (List Char) → Prop where
  | nil : Spaced [] []
  | line {l : List Char} {ls ms : List (List Char)} (rest : Spaced ls ms) :
      Spaced (l :: ls) (l :: ms)
  | blank {l : List Char} {ls ms : List (List Char)} (empty : allBlank l = true)
      (rest : Spaced ls ms) : Spaced ls (l :: ms)

theorem Spaced.filter_eq {ls ms : List (List Char)} (spaced : Spaced ls ms) :
    ms.filter (!allBlank ·) = ls.filter (!allBlank ·) := by
  induction spaced with
  | nil => rfl
  | line rest ih => rw [List.filter_cons, List.filter_cons, ih]
  | blank empty rest ih => rw [List.filter_cons_of_neg (by simp [empty]), ih]

theorem Spaced.filter_of_filled {ls ms : List (List Char)} (spaced : Spaced ls ms)
    (filled : ∀ l ∈ ls, allBlank l = false) : ms.filter (!allBlank ·) = ls := by
  rw [spaced.filter_eq, List.filter_eq_self]
  intro l listed
  rw [filled l listed]
  rfl

/-- How a line ends: with a line feed, which may have a carriage return in front of it. -/
inductive LineEnd where
  | feed
  | returnFeed

def LineEnd.text : LineEnd → List Char
  | feed => ['\n']
  | returnFeed => ['\r', '\n']

/-- A text as it is written: lines with their ends, and what stands behind the last end. -/
structure Sheet where
  ended : List (List Char × LineEnd)
  rest : List Char
  unbroken : ∀ l ∈ ended, '\n' ∉ l.1
  rest_unbroken : '\n' ∉ rest

namespace Sheet

def text (s : Sheet) : List Char := s.ended.flatMap (fun l => l.1 ++ l.2.text) ++ s.rest

def bytes (s : Sheet) : Bytes := .ofText s.text

/-- The lines that are written. What stands behind the last end is a line if it is not empty. -/
def lines (s : Sheet) : List (List Char) :=
  s.ended.map Prod.fst ++ [s.rest].filter (!·.isEmpty)

/-- Lines that all end with a line feed. -/
def ofLines (ls : List (List Char)) (unbroken : ∀ l ∈ ls, '\n' ∉ l) : Sheet where
  ended := ls.map (·, .feed)
  rest := []
  unbroken l listed := by
    obtain ⟨line, written, rfl⟩ := List.mem_map.1 listed
    exact unbroken line written
  rest_unbroken := List.not_mem_nil

theorem lines_ofLines {ls : List (List Char)} (unbroken : ∀ l ∈ ls, '\n' ∉ l) :
    (ofLines ls unbroken).lines = ls := by
  rw [lines, ofLines, List.map_map]
  exact (List.append_nil _).trans (List.map_id' ls)

theorem lines_append_feed {l : List Char} (unbroken : '\n' ∉ l) (behind : List Char) :
    Text.lines (l ++ '\n' :: behind) = dropReturn l :: Text.lines behind := by
  obtain ⟨p, ps, pieces⟩ := List.exists_cons_of_ne_nil (List.splitOn_ne_nil '\n' behind)
  simp only [Text.lines, List.splitOn_append_cons_self_of_not_mem unbroken, pieces]
  simp

theorem lines_of_unbroken {l : List Char} (unbroken : '\n' ∉ l) :
    Text.lines l = [l].filter (!·.isEmpty) := by
  simp [Text.lines, List.splitOn_eq_singleton unbroken]

theorem trimmedLines_ended {l : List Char} (unbroken : '\n' ∉ l) (e : LineEnd)
    (behind : List Char) :
    trimmedLines (l ++ e.text ++ behind) = trim l :: trimmedLines behind := by
  cases e with
  | feed =>
    have fed : l ++ LineEnd.feed.text ++ behind = l ++ '\n' :: behind := by simp [LineEnd.text]
    rw [fed, trimmedLines, lines_append_feed unbroken, List.map_cons, trim_dropReturn, trimmedLines]
  | returnFeed =>
    have fed : l ++ LineEnd.returnFeed.text ++ behind = (l ++ ['\r']) ++ '\n' :: behind := by
      simp [LineEnd.text]
    have returned : '\n' ∉ l ++ ['\r'] := by simpa using unbroken
    rw [fed, trimmedLines, lines_append_feed returned, List.map_cons, trim_dropReturn,
      trim_append_blank (List.forall_mem_singleton.2 rfl), trimmedLines]

/-- The lines that are written are read, whatever their ends. -/
theorem trimmedLines_text (s : Sheet) : trimmedLines s.text = s.lines.map trim := by
  obtain ⟨ended, rest, unbroken, rest_unbroken⟩ := s
  rw [text, lines]
  induction ended with
  | nil =>
    simp only [List.flatMap_nil, List.nil_append, List.map_nil]
    rw [trimmedLines, lines_of_unbroken rest_unbroken]
  | cons l ended ih =>
    obtain ⟨first, later⟩ := List.forall_mem_cons.1 unbroken
    simp only [List.flatMap_cons, List.append_assoc, List.map_cons, List.cons_append] at ih ⊢
    rw [← List.append_assoc, trimmedLines_ended first, ih later]

theorem trimmedLines?_bytes (s : Sheet) : trimmedLines? s.bytes = some (s.lines.map trim) := by
  rw [trimmedLines?, bytes, ofBytes?_ofText, Option.map_some, trimmedLines_text]

/-- Blank lines may stand anywhere in a sheet; what is left of the others is the same. -/
theorem filledLines?_bytes (s : Sheet) :
    filledLines? s.bytes = some ((s.lines.filter (!allBlank ·)).map trim) := by
  rw [filledLines?, bytes, ofBytes?_ofText, Option.map_some, filledLines, trimmedLines_text,
    List.filter_map]
  simp only [Function.comp_def, isEmpty_trim]

theorem filledLines?_ofLines {ls : List (List Char)} (unbroken : ∀ l ∈ ls, '\n' ∉ l)
    (tidy : ∀ l ∈ ls, l ≠ [] ∧ trim l = l) :
    filledLines? (ofLines ls unbroken).bytes = some ls := by
  have filled : ls.filter (!allBlank ·) = ls := by
    refine List.filter_eq_self.2 fun l listed => ?_
    obtain ⟨some, same⟩ := tidy l listed
    rw [← isEmpty_trim, same, Bool.not_eq_true', List.isEmpty_eq_false_iff]
    exact some
  rw [filledLines?_bytes, lines_ofLines, filled,
    List.map_congr_left fun l listed => (tidy l listed).2, List.map_id']

end Sheet

end Text

end Lidar
