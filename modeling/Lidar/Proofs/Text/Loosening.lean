import Lidar.Proofs.Text.Sheets

namespace Lidar.Text

variable {s t before behind blank : List Char}

/-- Behind these characters a new line begins. -/
def LineStarts (before : List Char) : Prop := before = [] ∨ before.getLast? = some '\n'

/-- A text after any number of blank lines have been put in, each where a line begins or behind the
last line, which may be without an end. -/
inductive Loosened (s : List Char) : List Char → Prop where
  | same : Loosened s s
  | line {before blank behind : List Char} (loose : Loosened s (before ++ behind))
      (start : LineStarts before) (empty : allBlank blank = true) :
      Loosened s (before ++ (blank ++ '\n' :: behind))
  | unended {before blank : List Char} (loose : Loosened s before) (start : LineStarts before)
      (empty : allBlank blank = true) : Loosened s (before ++ blank)
  | last {before blank : List Char} (loose : Loosened s before) (empty : allBlank blank = true) :
      Loosened s (before ++ '\n' :: blank)

/-- For the lines that are not blank it does not matter how the last one ends. -/
theorem filledLines_eq_splitOn (s : List Char) :
    filledLines s = ((s.splitOn '\n').map trim).filter (!·.isEmpty) := by
  obtain ⟨front, last, pieces⟩ : ∃ front last, s.splitOn '\n' = front ++ [last] :=
    ⟨_, _, (List.dropLast_append_getLast (List.splitOn_ne_nil '\n' s)).symm⟩
  have ended : (front.map dropReturn).map trim = front.map trim := by
    rw [List.map_map]
    exact List.map_congr_left fun l _ => trim_dropReturn l
  have unended : (([last].filter (!·.isEmpty)).map trim).filter (!·.isEmpty) =
      ([last].map trim).filter (!·.isEmpty) := by
    cases last <;> rfl
  have lines_eq : lines s = front.map dropReturn ++ [last].filter (!·.isEmpty) := by
    simp [lines, pieces]
  rw [filledLines, trimmedLines, lines_eq, List.map_append, List.filter_append, ended, unended,
    pieces, List.map_append, List.filter_append]

theorem filledLines_append_feed (before behind : List Char) :
    filledLines (before ++ '\n' :: behind) = filledLines before ++ filledLines behind := by
  simp only [filledLines_eq_splitOn, List.splitOn_append_cons_self, List.map_append,
    List.filter_append]

theorem filledLines_of_allBlank (empty : allBlank s = true) : filledLines s = [] := by
  rw [filledLines, List.filter_eq_nil_iff]
  intro line listed
  simp [trimmedLines_of_allBlank empty line listed]

theorem filledLines_append (start : LineStarts before) (behind : List Char) :
    filledLines (before ++ behind) = filledLines before ++ filledLines behind := by
  have nothing : filledLines [] = [] := filledLines_of_allBlank rfl
  rcases start with rfl | fed
  · rw [nothing, List.nil_append, List.nil_append]
  · obtain ⟨front, rfl⟩ := List.getLast?_eq_some_iff.1 fed
    have joined : front ++ ['\n'] ++ behind = front ++ '\n' :: behind := by simp
    rw [joined, filledLines_append_feed, filledLines_append_feed, nothing, List.append_nil]

theorem Loosened.filledLines_eq (loose : Loosened s t) : filledLines t = filledLines s := by
  induction loose with
  | same => rfl
  | line loose start empty ih =>
    rw [filledLines_append start, filledLines_append_feed, filledLines_of_allBlank empty,
      List.nil_append, ← filledLines_append start, ih]
  | unended loose start empty ih =>
    rw [filledLines_append start, filledLines_of_allBlank empty, List.append_nil, ih]
  | last loose empty ih =>
    rw [filledLines_append_feed, filledLines_of_allBlank empty, List.append_nil, ih]

/-- Two table files, of which the second holds the text of the first with further blank lines. -/
structure LooserBlob (b b' : Bytes) (s t : List Char) : Prop where
  before : ofBytes? b = some s
  after : ofBytes? b' = some t
  loose : Loosened s t

theorem LooserBlob.filledLines? {b b' : Bytes} (looser : LooserBlob b b' s t) :
    filledLines? b' = filledLines? b := by
  rw [Text.filledLines?, Text.filledLines?, looser.before, looser.after, Option.map_some,
    Option.map_some, looser.loose.filledLines_eq]

end Lidar.Text
