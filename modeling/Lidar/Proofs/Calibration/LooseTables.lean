import Lidar.Proofs.Calibration.AngleTable
import Lidar.Proofs.Calibration.ChannelTable
import Lidar.Proofs.Calibration.FiringTable
import Lidar.Proofs.Text.Loosening

namespace Lidar

namespace AngleCorrection

variable {b : Bytes} {c : AngleCorrection} {header table ls : List (List Char)} {maxChannels : Nat}

instance : DecidablePred Numbered := fun _ => inferInstanceAs (Decidable (_ = true))

/-- A caption is a line with text but without a number; each is one of the first two lines. -/
def CaptionsFirst (ls : List (List Char)) : Prop := ∀ line ∈ ls.drop 2, line ≠ [] → Numbered line

/-- The lines with text, from the first one with a number on. -/
def numberedOn (ls : List (List Char)) : List (List Char) :=
  (ls.filter (!·.isEmpty)).dropWhile fun line => ¬Numbered line

theorem Tabulates.numbered (tabulates : Tabulates maxChannels table c) :
    ∀ line ∈ table.filter (!·.isEmpty), Numbered line := by
  intro line listed
  obtain ⟨k, found⟩ := List.mem_iff_getElem?.1 listed
  obtain ⟨inside, -⟩ := List.getElem?_eq_some_iff.1 found
  have room : k < c.channels.size := Nat.lt_of_lt_of_eq inside tabulates.count
  exact (tabulates.rows k line _ found (Array.getElem?_eq_getElem room)).numbered

/-- It does not matter whether the blank lines of a table are there. -/
theorem tabulates_filter_iff :
    Tabulates maxChannels (table.filter (!·.isEmpty)) c ↔ Tabulates maxChannels table c := by
  have again : (table.filter (!·.isEmpty)).filter (!·.isEmpty) = table.filter (!·.isEmpty) := by
    simp
  constructor
  · rintro ⟨listed, fits, count, rows⟩
    rw [again] at count rows
    exact ⟨listed, fits, count, rows⟩
  · rintro ⟨listed, fits, count, rows⟩
    rw [← again] at count rows
    exact ⟨listed, fits, count, rows⟩

theorem exists_headed (ls : List (List Char)) :
    ∃ header table, ls = header ++ table ∧ Headed header table := by
  match ls with
  | [] => exact ⟨[], [], rfl, by simp, by simp, by simp⟩
  | [x] =>
    by_cases first : Numbered x
    · exact ⟨[], [x], rfl, by simp, by simp, by simpa using first⟩
    · exact ⟨[x], [], rfl, by simp, by simpa using first, by simp⟩
  | x :: y :: rest =>
    by_cases first : Numbered x
    · exact ⟨[], x :: y :: rest, rfl, by simp, by simp, by simpa using first⟩
    · by_cases second : Numbered y
      · exact ⟨[x], y :: rest, rfl, by simp, by simpa using first, by simpa using second⟩
      · exact ⟨[x, y], rest, rfl, by simp, by simp [first, second], by simp⟩

theorem numberedOn_append (plain : ∀ line ∈ header, ¬Numbered line) :
    numberedOn (header ++ table) = numberedOn table := by
  have passed : ∀ line ∈ header.filter (!·.isEmpty), decide (¬Numbered line) = true := by
    intro line listed
    exact decide_eq_true (plain line (List.mem_of_mem_filter listed))
  rw [numberedOn, List.filter_append, List.dropWhile_append_of_pos passed, numberedOn]

theorem numberedOn_of_first
    (first : ∀ line ∈ (table.filter (!·.isEmpty)).head?, Numbered line) :
    numberedOn table = table.filter (!·.isEmpty) := by
  rw [numberedOn]
  cases rows : table.filter (!·.isEmpty) with
  | nil => rfl
  | cons line rest =>
    have numbered : Numbered line := first line (by rw [rows]; rfl)
    exact List.dropWhile_cons_of_neg (by simpa using numbered)

theorem not_numbered_nil : ¬Numbered [] := by decide

/-- Where all captions are in front, what stands behind the header are the lines from the first
number on. -/
theorem numberedOn_of_headed (headed : Headed header table)
    (captions : CaptionsFirst (header ++ table)) :
    numberedOn (header ++ table) = table.filter (!·.isEmpty) := by
  rw [numberedOn_append headed.plain]
  apply numberedOn_of_first
  intro line first
  rcases Nat.lt_or_ge header.length 2 with short | full
  · cases table with
    | nil => cases first
    | cons x rest =>
      have numbered := headed.longest short x rfl
      have filled : x.isEmpty = false := by
        rw [List.isEmpty_eq_false_iff]
        intro none
        exact not_numbered_nil (none ▸ numbered)
      rw [List.filter_cons_of_pos (by simp [filled])] at first
      obtain rfl := Option.some.inj first
      exact numbered
  · have listed := List.mem_of_mem_head? first
    obtain ⟨inTable, filled⟩ := List.mem_filter.1 listed
    apply captions line
    · have two : header.length = 2 := Nat.le_antisymm headed.few full
      rw [← two, List.drop_left]
      exact inTable
    · simpa using filled

/-- A text is accepted exactly if its captions are in front and the lines from the first number on
are a table. -/
theorem parse_eq_ok_iff_captions :
    parse b maxChannels = .ok c ↔ ∃ ls, Text.trimmedLines? b = some ls ∧ CaptionsFirst ls ∧
      Tabulates maxChannels (numberedOn ls) c := by
  rw [parse_eq_ok_iff]
  constructor
  · rintro ⟨header, table, lines, headed, tabulates⟩
    have captions : CaptionsFirst (header ++ table) := by
      intro line behind filled
      have inTable : line ∈ table := by
        rw [List.drop_append, List.drop_eq_nil_of_le headed.few] at behind
        exact List.mem_of_mem_drop behind
      exact tabulates.numbered line (List.mem_filter.2 ⟨inTable, by simpa using filled⟩)
    refine ⟨header ++ table, lines, captions, ?_⟩
    rw [numberedOn_of_headed headed captions]
    exact tabulates_filter_iff.2 tabulates
  · rintro ⟨ls, lines, captions, tabulates⟩
    obtain ⟨header, table, rfl, headed⟩ := exists_headed ls
    rw [numberedOn_of_headed headed captions] at tabulates
    exact ⟨header, table, lines, headed, tabulates_filter_iff.1 tabulates⟩

/-- Were the first row numbered, all that follow would be, and the caption among them. -/
theorem exists_unnumbered_row (headed : Headed header table)
    (tabulates : Tabulates maxChannels (numberedOn (header ++ table)) c) {line : List Char}
    (listed : line ∈ table.filter (!·.isEmpty)) (caption : ¬Numbered line) :
    ∃ first ∈ (table.filter (!·.isEmpty)).head?, ¬Numbered first := by
  by_contra numbered
  push Not at numbered
  rw [numberedOn_append headed.plain, numberedOn_of_first numbered] at tabulates
  exact caption (tabulates.numbered line (by simpa using listed))

/-- A line that has to be a row and has no number is the complaint. -/
theorem readLines_of_caption {l : Text.Line} {rest : List Text.Line} {known : Nat}
    (caption : ¬isDataLine l = true) : readLines maxChannels known (l :: rest) =
      .error (.field l.number (Text.fieldAt (Text.fields l.text) 0)) := by
  have unread : Text.integer? (Text.fieldAt (Text.fields l.text) 0) = none := by
    simpa [isDataLine] using caption
  simp only [readLines, readLine, Text.readField, unread]
  rfl

/-- A line with a number is not blank. -/
theorem not_isBlank_of_isDataLine {l : Text.Line} (numbered : isDataLine l = true) :
    l.isBlank = false := by
  rw [← Bool.not_eq_true]
  intro blank
  have none := isDataLine_iff.1 numbered
  rw [Text.trim_of_allBlank blank] at none
  exact not_numbered_nil none

/-- A header in front of a row without a number has not ended early. -/
theorem length_header_of_caption {header table rest : List Text.Line} {l : Text.Line}
    (few : header.length ≤ 2)
    (longest : header.length < 2 → ∀ l ∈ table.head?, isDataLine l = true)
    (rows : table.filter (!·.isBlank) = l :: rest) (row : ¬isDataLine l = true) :
    header.length = 2 := by
  by_contra short
  cases table with
  | nil => cases rows
  | cons x others =>
    have numbered := longest (by omega) x rfl
    rw [List.filter_cons_of_pos (by simp [not_isBlank_of_isDataLine numbered])] at rows
    exact row ((List.cons.inj rows).1 ▸ numbered)

theorem parse_of_caption {t : List Char} {rest : List Text.Line} {l : Text.Line}
    (decoded : Text.ofBlob b = .ok t) (text : ¬Text.allBlank t = true)
    (rows : (skipHeader 2 (Text.numbered t)).filter (!·.isBlank) = l :: rest)
    (row : ¬isDataLine l = true) :
    parse b maxChannels = .error (.field l.number (Text.fieldAt (Text.fields l.text) 0)) := by
  simp only [parse, decoded, ok_bind, if_neg text, rows, readLines_of_caption row]
  rfl

section Loosened

variable {b' : Bytes} {s t : List Char}

theorem numberedOn_trimmedLines (text : List Char) : numberedOn (Text.trimmedLines text) =
    (Text.filledLines text).dropWhile fun line => ¬Numbered line := rfl

theorem tabulates_loosened (looser : Text.LooserBlob b b' s t)
    (parsed : parse b maxChannels = .ok c) :
    Tabulates maxChannels (numberedOn (Text.trimmedLines t)) c := by
  obtain ⟨ls, lines, -, tabulates⟩ := parse_eq_ok_iff_captions.1 parsed
  rw [Text.trimmedLines?, looser.before, Option.map_some, Option.some.injEq] at lines
  subst lines
  rw [numberedOn_trimmedLines] at tabulates ⊢
  rwa [looser.loose.filledLines_eq]

theorem parse_loosened (looser : Text.LooserBlob b b' s t) (parsed : parse b maxChannels = .ok c)
    (captions : CaptionsFirst (Text.trimmedLines t)) : parse b' maxChannels = .ok c := by
  refine parse_eq_ok_iff_captions.2
    ⟨Text.trimmedLines t, ?_, captions, tabulates_loosened looser parsed⟩
  rw [Text.trimmedLines?, looser.after, Option.map_some]

/-- A caption that is not among the first two lines. -/
structure Misplaced (t : List Char) (l : Text.Line) : Prop where
  behind : l ∈ (Text.numbered t).drop 2
  filled : l.isBlank = false
  plain : ¬Numbered l.text

/-- A caption that blank lines have moved behind the second line is taken for a row. -/
theorem parse_of_moved_caption (looser : Text.LooserBlob b b' s t)
    (parsed : parse b maxChannels = .ok c) (moved : ¬CaptionsFirst (Text.trimmedLines t)) :
    ∃ l, Misplaced t l ∧ parse b' maxChannels =
      .error (.field l.number (Text.fieldAt (Text.fields l.text) 0)) := by
  have tabulates := tabulates_loosened looser parsed
  obtain ⟨line, behind, filled, caption⟩ : ∃ line ∈ (Text.trimmedLines t).drop 2,
      line ≠ [] ∧ ¬Numbered line := by
    simpa [CaptionsFirst] using moved
  have text : ¬Text.allBlank t = true := by
    intro blank
    exact filled (Text.trimmedLines_of_allBlank blank line (List.mem_of_mem_drop behind))
  obtain ⟨header, whole, few, plain, longest⟩ := exists_skipHeader 2 (Text.numbered t)
  generalize skipped : skipHeader 2 (Text.numbered t) = table at whole longest
  have split : Text.trimmedLines t = trimmed header ++ trimmed table := by
    rw [Text.trimmedLines_eq, whole, List.map_append]
    rfl
  have headed : Headed (trimmed header) (trimmed table) :=
    headed_trimmed_iff.2 ⟨few, plain, longest⟩
  have listed : line ∈ (trimmed table).filter (!·.isEmpty) := by
    rw [split, List.drop_append, List.drop_eq_nil_of_le headed.few] at behind
    exact List.mem_filter.2 ⟨List.mem_of_mem_drop behind, by simpa using filled⟩
  rw [split] at tabulates
  obtain ⟨first, isFirst, unnumbered⟩ := exists_unnumbered_row headed tabulates listed caption
  have kept : (trimmed table).filter (!·.isEmpty) = trimmed (table.filter (!·.isBlank)) :=
    (Text.map_trim_filter table).symm
  rw [kept] at isFirst
  cases rows : table.filter (!·.isBlank) with
  | nil =>
    rw [rows] at isFirst
    cases isFirst
  | cons l rest =>
    rw [rows] at isFirst
    obtain rfl := Option.some.inj isFirst
    obtain ⟨inTable, some⟩ := List.mem_filter.1 (rows ▸ List.mem_cons_self : l ∈ table.filter _)
    have row : ¬isDataLine l = true := by rwa [isDataLine_iff]
    have full : header.length = 2 := length_header_of_caption few longest rows row
    refine ⟨l, ⟨?_, by simpa using some, ?_⟩, ?_⟩
    · rw [whole, ← full, List.drop_left]
      exact inTable
    · rwa [numbered_trim_iff] at unnumbered
    · exact parse_of_caption (Text.ofBlob_eq_ok_iff.2 looser.after) text (skipped ▸ rows) row

end Loosened

end AngleCorrection

theorem ChannelConfig.parse_loosened {b b' : Bytes} {s t : List Char} {c : ChannelConfig}
    (looser : Text.LooserBlob b b' s t) (parsed : parse b = .ok c) : parse b' = .ok c := by
  rw [parse_eq_ok_iff] at parsed ⊢
  rwa [looser.filledLines?]

theorem FireTimes.parse_loosened {b b' : Bytes} {s t : List Char} {f : FireTimes}
    (looser : Text.LooserBlob b b' s t) (parsed : parse b = .ok f) : parse b' = .ok f := by
  rw [parse_eq_ok_iff] at parsed ⊢
  rwa [looser.filledLines?]

/-- However many blank lines are put into a text and wherever, a channel table and a table of firing
times stay what they are. So does an angle correction if its captions stay among the first two
lines; otherwise it is refused, with a complaint about a caption that does not. -/
theorem blank_lines_matter_to_captions_only (b b' : Bytes) (s t : List Char)
    (looser : Text.LooserBlob b b' s t) :
    (∀ c, ChannelConfig.parse b = .ok c → ChannelConfig.parse b' = .ok c) ∧
    (∀ f, FireTimes.parse b = .ok f → FireTimes.parse b' = .ok f) ∧
    ∀ maxChannels c, AngleCorrection.parse b maxChannels = .ok c →
      (AngleCorrection.CaptionsFirst (Text.trimmedLines t) →
        AngleCorrection.parse b' maxChannels = .ok c) ∧
      (¬AngleCorrection.CaptionsFirst (Text.trimmedLines t) →
        ∃ l, AngleCorrection.Misplaced t l ∧ AngleCorrection.parse b' maxChannels =
          .error (.field l.number (Text.fieldAt (Text.fields l.text) 0))) := by
  refine ⟨?_, ?_, ?_⟩
  · intro c parsed
    exact ChannelConfig.parse_loosened looser parsed
  · intro f parsed
    exact FireTimes.parse_loosened looser parsed
  · intro maxChannels c parsed
    constructor
    · intro captions
      exact AngleCorrection.parse_loosened looser parsed captions
    · intro moved
      exact AngleCorrection.parse_of_moved_caption looser parsed moved

namespace AngleCorrection

/-- Two captions and a laser. -/
def captioned : List Char :=
  ['E', 'E', 'F', 'F', '\n', 'i', 'd', '\n', '1', ',', '0', ',', '0']

/-- Blank lines behind the captions and behind the last line. -/
def aired : List Char :=
  ['E', 'E', 'F', 'F', '\n', 'i', 'd', '\n', ' ', '\n', '\n', '1', ',', '0', ',', '0', '\n', '\t']

/-- A blank line between the captions. -/
def torn : List Char :=
  ['E', 'E', 'F', 'F', '\n', '\n', 'i', 'd', '\n', '1', ',', '0', ',', '0']

theorem parse_captioned : parse (.ofText captioned) 128 = .ok ⟨#[⟨0, 0⟩]⟩ := by
  rw [parse, Text.ofBlob_ofText]
  decide +kernel

theorem looser_aired : Text.LooserBlob (.ofText captioned) (.ofText aired) captioned aired := by
  refine ⟨Text.ofBytes?_ofText _, Text.ofBytes?_ofText _, ?_⟩
  have between : Text.Loosened captioned (captioned.take 8 ++ ([' ', '\n'] ++ '\n' ::
      captioned.drop 8)) := .line .same (.inr rfl) rfl
  have behind : Text.Loosened captioned (_ ++ '\n' :: ['\t']) := .last between rfl
  exact behind

theorem looser_torn : Text.LooserBlob (.ofText captioned) (.ofText torn) captioned torn := by
  refine ⟨Text.ofBytes?_ofText _, Text.ofBytes?_ofText _, ?_⟩
  have between : Text.Loosened captioned (captioned.take 5 ++ ([] ++ '\n' :: captioned.drop 5)) :=
    .line .same (.inr rfl) rfl
  exact between

theorem blank_lines_matter_to_captions_only_aired :
    Text.LooserBlob (.ofText captioned) (.ofText aired) captioned aired ∧
      parse (.ofText captioned) 128 = .ok ⟨#[⟨0, 0⟩]⟩ ∧
      CaptionsFirst (Text.trimmedLines aired) ∧
      parse (.ofText aired) 128 = .ok ⟨#[⟨0, 0⟩]⟩ := by
  have captions : CaptionsFirst (Text.trimmedLines aired) := by
    unfold CaptionsFirst
    decide +kernel
  have kept := (blank_lines_matter_to_captions_only _ _ _ _ looser_aired).2.2 128 _
    parse_captioned
  exact ⟨looser_aired, parse_captioned, captions, kept.1 captions⟩

/-- The second caption is taken for a row, and its text for a laser id. -/
theorem refused_when_torn :
    Text.LooserBlob (.ofText captioned) (.ofText torn) captioned torn ∧
      parse (.ofText captioned) 128 = .ok ⟨#[⟨0, 0⟩]⟩ ∧
      parse (.ofText torn) 128 = .error (.invalidField 3 (String.ofList ['i', 'd'])) := by
  refine ⟨looser_torn, parse_captioned, ?_⟩
  rw [parse, Text.ofBlob_ofText]
  decide +kernel

end AngleCorrection

end Lidar
