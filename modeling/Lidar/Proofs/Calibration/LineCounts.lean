import Lidar.Proofs.Calibration.ChannelTable
import Lidar.Proofs.Calibration.FiringTable

namespace Lidar

variable {b : Bytes} {version size columns : List Char} {table behind : List (List Char)}
  {loops lasers k : Nat}

/-- Lines that are the front of a table are as the table is. -/
theorem lines_of_take {p : List Char → Prop} {ls : List Text.Line} (each : ∀ line ∈ table, p line)
    (inside : k ≤ table.length) (front : (ls.map fun l => Text.trim l.text) = table.take k) :
    ls.length = k ∧ ∀ l ∈ ls, p (Text.trim l.text) := by
  constructor
  · have lengths := congrArg List.length front
    rw [List.length_map, List.length_take] at lengths
    omega
  · intro l listed
    exact each _ (List.take_subset k table (front ▸ List.mem_map_of_mem listed))

namespace ChannelConfig

variable {c : ChannelConfig}

/-- A line of ids has a whole number for each loop. -/
def IsIdLine (loops : Nat) (line : List Char) : Prop :=
  (Text.fields line).length = loops ∧
    ∀ field ∈ Text.fields line, (Text.integer? field).isSome = true

instance (loops : Nat) : DecidablePred (IsIdLine loops) :=
  fun _ => inferInstanceAs (Decidable (_ ∧ _))

/-- What stands behind the header is what the header declares: as many lines of ids as there are
lasers, and at most one more line, the hash. -/
structure Matched (loops lasers : Nat) (body : List (List Char)) : Prop where
  count : body.countP (IsIdLine loops) = lasers
  few : body.length ≤ lasers + 1

theorem IsRow.isIdLine {line : List Char} {row : Array Nat} (isRow : IsRow loops line row) :
    IsIdLine loops line := by
  refine ⟨?_, fun field listed => ?_⟩
  · rw [isRow.channels.length_eq, Array.length_toList, isRow.width]
  · obtain ⟨channel, -, read, -⟩ := exists_right_of_mem isRow.channels listed
    rw [read]
    rfl

/-- A table that keeps only some of its rows is refused. -/
theorem Reads.parse_of_missing (reads : Reads version size columns table behind c)
    (missing : k < c.laserCount)
    (lines : Text.filledLines? b = some (version :: size :: columns :: table.take k)) :
    parse b = .error (.lineCount c.laserCount k) := by
  obtain ⟨text, v, s, h, ls, decoded, whole, rfl, rfl, rfl, rest⟩ :=
    Text.filledLines?_eq_some_iff.1 lines
  obtain ⟨count, each⟩ := lines_of_take reads.exists_row (reads.count ▸ Nat.le_of_lt missing) rest
  have rows : ∀ l ∈ ls, ∃ row, readRow c.loopCount l = .ok row := by
    simpa only [readRow_eq_ok_iff] using each
  have refused : Text.readRows (readRow c.loopCount) c.laserCount 0 c.laserCount ls =
      .error (.lineCount c.laserCount k) := by
    rw [Text.readRows_of_missing rows (count ▸ missing), count, Nat.zero_add]
  obtain ⟨marked, major, minor, lasers, blocks, someLasers, someBlocks, loops, fewLoops, -, -, -⟩ :=
    reads
  simp only [Text.isVersionLine_trim, Text.fields_trim] at marked major minor lasers blocks loops
  rw [loops] at fewLoops refused
  have noLasers : ¬(c.laserCount = 0 ∨ laserLimit < c.laserCount) := by omega
  have noBlocks : c.blockCount ≠ 0 := by omega
  simp only [parse, Text.ofBlob_eq_ok_iff.2 decoded, whole, Text.headerLine, ok_bind, marked,
    Bool.not_true, Bool.false_eq_true, if_false, Text.readField_eq_ok_iff.2 major,
    Text.readField_eq_ok_iff.2 minor, Text.readField_eq_ok_iff.2 lasers,
    Text.readField_eq_ok_iff.2 blocks, if_neg noLasers, if_neg noBlocks,
    if_neg (Nat.not_lt.2 fewLoops), refused]
  rfl

/-- Behind a table only the next line counts. -/
theorem Reads.parse_of_surplus {last : List Char} {behind' : List (List Char)}
    (reads : Reads version size columns table (last :: behind) c)
    (lines : Text.filledLines? b =
      some (version :: size :: columns :: (table ++ last :: behind'))) : parse b = .ok c :=
  parse_eq_ok_iff.2 ⟨version, size, columns, table, last :: behind', lines,
    { reads with hash := reads.hash }⟩

theorem Reads.isIdLine (reads : Reads version size columns table behind c) :
    ∀ line ∈ table, IsIdLine c.loopCount line := by
  intro line listed
  obtain ⟨row, isRow⟩ := reads.exists_row line listed
  exact isRow.isIdLine

/-- There are enough rows, so only what follows them can be too much. -/
theorem Reads.matched_iff (reads : Reads version size columns table behind c) :
    Matched c.loopCount c.laserCount (table ++ behind) ↔
      behind.length ≤ 1 ∧ ∀ line ∈ behind, ¬IsIdLine c.loopCount line := by
  have rows : table.countP (IsIdLine c.loopCount) = c.laserCount := by
    rw [← reads.count, List.countP_eq_length]
    intro line listed
    simpa using reads.isIdLine line listed
  have none : behind.countP (IsIdLine c.loopCount) = 0 ↔
      ∀ line ∈ behind, ¬IsIdLine c.loopCount line := by
    simp [List.countP_eq_zero]
  rw [← none]
  constructor
  · rintro ⟨count, few⟩
    rw [List.countP_append, rows] at count
    rw [List.length_append, reads.count] at few
    omega
  · rintro ⟨few, count⟩
    constructor
    · rw [List.countP_append, rows, count, Nat.add_zero]
    · rw [List.length_append, reads.count]
      omega

end ChannelConfig

namespace FireTimes

variable {rows : List (List Entry)}

theorem Reads.parse_of_missing (reads : Reads version size table loops rows)
    (missing : k < laserLimit)
    (lines : Text.filledLines? b = some (version :: size :: columns :: table.take k)) :
    parse b = .error (.lineCount laserLimit k) := by
  obtain ⟨text, v, s, h, ls, decoded, whole, rfl, rfl, rfl, rest⟩ :=
    Text.filledLines?_eq_some_iff.1 lines
  obtain ⟨count, each⟩ := lines_of_take reads.exists_row (reads.count ▸ Nat.le_of_lt missing) rest
  have rows : ∀ l ∈ ls, ∃ row, readRow loops l = .ok row := by
    simpa only [readRow_eq_ok_iff] using each
  have refused : Text.readRows (readRow loops) laserLimit 0 laserLimit ls =
      .error (.lineCount laserLimit k) := by
    rw [Text.readRows_of_missing rows (count ▸ missing), count, Nat.zero_add]
  obtain ⟨marked, stated, someLoops, -, -⟩ := reads
  rw [Text.isVersionLine_trim] at marked
  rw [Text.fields_trim] at stated
  have noLoops : ¬(loops = 0 ∨ loopLimit < loops) := by omega
  simp only [parse, Text.ofBlob_eq_ok_iff.2 decoded, whole, Text.headerLine, ok_bind, marked,
    Bool.not_true, Bool.false_eq_true, if_false, Text.readField_eq_ok_iff.2 stated,
    if_neg noLoops, refused]
  rfl

end FireTimes

/-- Too few lines are refused, with their count. Too many are not: an accepted channel table has the
lines that it declares exactly if what stands behind its rows is at most a hash that is no further
row, and an accepted table of firing times exactly if nothing stands there, but whatever else may
stand there is passed over. -/
theorem surplus_lines_unnoticed (b : Bytes) :
    (∀ c, ChannelConfig.parse b = .ok c → ∃ version size columns rows behind,
      Text.filledLines? b = some (version :: size :: columns :: (rows ++ behind)) ∧
      rows.length = c.laserCount ∧ (∀ line ∈ rows, ChannelConfig.IsIdLine c.loopCount line) ∧
      (ChannelConfig.Matched c.loopCount c.laserCount (rows ++ behind) ↔
        behind.length ≤ 1 ∧ ∀ line ∈ behind, ¬ChannelConfig.IsIdLine c.loopCount line) ∧
      (∀ b', ∀ k < c.laserCount,
        Text.filledLines? b' = some (version :: size :: columns :: rows.take k) →
        ChannelConfig.parse b' = .error (.lineCount c.laserCount k)) ∧
      ∀ last more, behind = last :: more → c.hash = some (String.ofList last) ∧
        ∀ b' more', Text.filledLines? b' =
          some (version :: size :: columns :: (rows ++ last :: more')) →
          ChannelConfig.parse b' = .ok c) ∧
    ∀ f, FireTimes.parse b = .ok f → ∃ version size columns rows behind,
      Text.filledLines? b = some (version :: size :: columns :: (rows ++ behind)) ∧
      rows.length = 128 ∧ ((rows ++ behind).length = 128 ↔ behind = []) ∧
      (∀ b', ∀ k < 128, Text.filledLines? b' = some (version :: size :: columns :: rows.take k) →
        FireTimes.parse b' = .error (.lineCount 128 k)) ∧
      ∀ b' more, Text.filledLines? b' = some (version :: size :: columns :: (rows ++ more)) →
        FireTimes.parse b' = .ok f := by
  constructor
  · intro c parsed
    obtain ⟨version, size, columns, table, behind, lines, reads⟩ :=
      ChannelConfig.parse_eq_ok_iff.1 parsed
    refine ⟨version, size, columns, table, behind, lines, reads.count, reads.isIdLine,
      reads.matched_iff, fun b' k => reads.parse_of_missing, ?_⟩
    rintro last more rfl
    exact ⟨reads.hash, fun b' more' => reads.parse_of_surplus⟩
  · intro f parsed
    obtain ⟨version, size, columns, table, behind, loops, rows, lines, reads, rfl⟩ :=
      FireTimes.parse_eq_ok_iff.1 parsed
    refine ⟨version, size, columns, table, behind, lines, reads.count, ?_,
      fun b' k => reads.parse_of_missing, fun b' more lines' => ?_⟩
    · rw [List.length_append, reads.count, ← List.length_eq_zero_iff]
      exact Nat.add_eq_left
    · exact FireTimes.parse_eq_ok_iff.2
        ⟨version, size, columns, table, more, loops, rows, lines', reads, rfl⟩

namespace ChannelConfig

def pairVersion : List Char := ['E', 'E', 'F', 'F', ',', '1', ',', '1']

def pairSize : List Char :=
  ['L', 'a', 's', 'e', 'r', ' ', 'n', 'u', 'm', ',', '1', ',',
    'B', 'l', 'o', 'c', 'k', ' ', 'n', 'u', 'm', ',', '2']

def pairColumns : List Char := ['A', ',', 'B']

/-- A text that declares a single laser, with two rows and a hash. -/
def twoRows : Text.Sheet :=
  .ofLines [pairVersion, pairSize, pairColumns, ['1', ',', '2'], ['3', ',', '4'], ['f', '0']]
    (by decide)

def noRows : Text.Sheet := .ofLines [pairVersion, pairSize, pairColumns] (by decide)

def noHash : Text.Sheet :=
  .ofLines [pairVersion, pairSize, pairColumns, ['1', ',', '2'], ['3', ',', '4']] (by decide)

/-- The second row is taken for the hash. -/
def pairConfig : ChannelConfig where
  major := 1
  minor := 1
  laserCount := 1
  blockCount := 2
  loopCount := 2
  rows := #[#[0, 1]]
  hash := some (String.ofList ['3', ',', '4'])

theorem filledLines_twoRows : Text.filledLines? twoRows.bytes =
    some [pairVersion, pairSize, pairColumns, ['1', ',', '2'], ['3', ',', '4'], ['f', '0']] :=
  Text.Sheet.filledLines?_ofLines _ (by decide)

theorem parse_twoRows : parse twoRows.bytes = .ok pairConfig := by
  refine parse_eq_ok_iff.2 ⟨pairVersion, pairSize, pairColumns, [['1', ',', '2']], _,
    filledLines_twoRows, ?_⟩
  have row : IsRow 2 ['1', ',', '2'] #[0, 1] :=
    ⟨rfl, .cons (by decide) (.cons (by decide) .nil)⟩
  exact ⟨by decide, by decide, by decide, by decide, by decide, by decide, by decide, rfl,
    by decide, rfl, .cons row .nil, rfl⟩

theorem not_matched_twoRows : parse twoRows.bytes = .ok pairConfig ∧
    ¬∃ version size columns body,
      Text.filledLines? twoRows.bytes = some (version :: size :: columns :: body) ∧
      Matched pairConfig.loopCount pairConfig.laserCount body := by
  refine ⟨parse_twoRows, ?_⟩
  rintro ⟨version, size, columns, body, lines, matched⟩
  rw [filledLines_twoRows] at lines
  cases lines
  exact absurd matched.count (by decide)

theorem surplus_lines_unnoticed_in_twoRows : parse twoRows.bytes = .ok pairConfig ∧
    parse noRows.bytes = .error (.lineCount 1 0) ∧ parse noHash.bytes = .ok pairConfig := by
  obtain ⟨version, size, columns, rows, behind, lines, count, -, -, missing, surplus⟩ :=
    (surplus_lines_unnoticed _).1 _ parse_twoRows
  obtain ⟨row, rfl⟩ := List.length_eq_one_iff.1 count
  rw [filledLines_twoRows, Option.some.injEq] at lines
  obtain ⟨rfl, others⟩ := List.cons.inj lines
  obtain ⟨rfl, last⟩ := List.cons.inj others
  obtain ⟨rfl, body⟩ := List.cons.inj last
  obtain ⟨rfl, rfl⟩ := List.cons.inj body
  have noRow : Text.filledLines? noRows.bytes = some [pairVersion, pairSize, pairColumns] :=
    Text.Sheet.filledLines?_ofLines _ (by decide)
  have twoLines : Text.filledLines? noHash.bytes =
      some [pairVersion, pairSize, pairColumns, ['1', ',', '2'], ['3', ',', '4']] :=
    Text.Sheet.filledLines?_ofLines _ (by decide)
  exact ⟨parse_twoRows, missing _ 0 (by decide) noRow, (surplus _ _ rfl).2 _ [] twoLines⟩

end ChannelConfig

end Lidar
