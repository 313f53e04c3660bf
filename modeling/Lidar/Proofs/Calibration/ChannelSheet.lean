import Lidar.Proofs.Calibration.ChannelTable

namespace Lidar.ChannelConfig

variable {c : ChannelConfig} {marker : List Char} {names : List (List Char)}

def laserLabel : List Char := ['L', 'a', 's', 'e', 'r', ' ', 'n', 'u', 'm']

def blockLabel : List Char := ['B', 'l', 'o', 'c', 'k', ' ', 'n', 'u', 'm']

def versionLine (c : ChannelConfig) (marker : List Char) : List Char :=
  Text.joinFields [marker, Text.numeral c.major, Text.numeral c.minor]

def sizeLine (c : ChannelConfig) : List Char :=
  Text.joinFields
    [laserLabel, Text.numeral c.laserCount, blockLabel, Text.numeral c.blockCount]

/-- Ids count from one. -/
def rowLine (row : Array Nat) : List Char :=
  Text.joinFields (row.toList.map fun channel => Text.numeral (channel + 1))

/-- The lines of a table, with a marker for its version and names for its columns. -/
def written (c : ChannelConfig) (marker : List Char) (names : List (List Char)) :
    List (List Char) :=
  c.versionLine marker :: c.sizeLine :: Text.joinFields names ::
    (c.rows.toList.map rowLine ++ (c.hash.map String.toList).toList)

/-- What can be written: numbers that have room in their words, a name for each column, and a hash
that is a line of its own. -/
structure Writable (c : ChannelConfig) (marker : List Char) (names : List (List Char)) : Prop where
  shaped : c.Shaped
  major : c.major < UInt8.size
  minor : c.minor < UInt8.size
  blocks : c.blockCount < UInt64.size
  marker : Text.IsMarker marker
  count : names.length = c.loopCount
  names : ∀ name ∈ names, Text.allBlank name = false ∧ ',' ∉ name
  hash : ∀ hash ∈ c.hash, Text.allBlank hash.toList = false ∧ Text.trim hash.toList = hash.toList

theorem comma_not_mem_numeral (n : Nat) : ',' ∉ Text.numeral n := Text.not_mem_numeral rfl

theorem fields_versionLine (isMarker : Text.IsMarker marker) :
    Text.fields (c.versionLine marker) =
      [Text.trim marker, Text.numeral c.major, Text.numeral c.minor] := by
  rw [versionLine, Text.fields_joinFields (List.cons_ne_nil _ _)]
  · simp
  · simp [isMarker.not_mem_comma, comma_not_mem_numeral]

theorem fields_sizeLine (c : ChannelConfig) :
    Text.fields c.sizeLine =
      [laserLabel, Text.numeral c.laserCount, blockLabel, Text.numeral c.blockCount] := by
  have laser : Text.trim laserLabel = laserLabel := by decide
  have block : Text.trim blockLabel = blockLabel := by decide
  rw [sizeLine, Text.fields_joinFields (List.cons_ne_nil _ _)]
  · simp [laser, block]
  · simp [laserLabel, blockLabel, comma_not_mem_numeral]

theorem fields_rowLine {row : Array Nat} (some : row.toList ≠ []) :
    Text.fields (rowLine row) = row.toList.map fun channel => Text.numeral (channel + 1) := by
  rw [rowLine, Text.fields_joinFields (by simpa using some)]
  · simp
  · simp [comma_not_mem_numeral]

namespace Writable

theorem fields_names (writable : c.Writable marker names) :
    Text.fields (Text.joinFields names) = names.map Text.trim := by
  have some := writable.shaped.someLoops.1
  rw [← writable.count] at some
  exact Text.fields_joinFields (List.length_pos_iff.1 some) fun name listed =>
    (writable.names name listed).2

theorem row_ne_nil (writable : c.Writable marker names) {row : Array Nat} (listed : row ∈ c.rows) :
    row.toList ≠ [] := by
  have some := writable.shaped.someLoops.1
  rw [← writable.shaped.width row listed, ← Array.length_toList] at some
  exact List.length_pos_iff.1 some

theorem isRow_rowLine (writable : c.Writable marker names) {row : Array Nat}
    (listed : row ∈ c.rows) : IsRow c.loopCount (rowLine row) row := by
  refine ⟨writable.shaped.width row listed, ?_⟩
  rw [fields_rowLine (writable.row_ne_nil listed), List.forall₂_map_left_iff, List.forall₂_same]
  intro channel held
  have inside := writable.shaped.channels row listed channel (Array.mem_toList_iff.1 held)
  have small : channel + 1 < 9223372036854775808 := by
    rw [laserLimit] at inside
    omega
  exact ⟨Text.integer?_numeral small, inside⟩

/-- No line of a table is blank: its fields are not, and blank fields alone are none. -/
theorem filled (writable : c.Writable marker names) :
    ∀ line ∈ c.written marker names, Text.allBlank line = false := by
  have filled_of_fields {line : List Char} (fields : Text.fields line ≠ [[]]) :
      Text.allBlank line = false :=
    Bool.not_eq_true _ ▸ mt Text.fields_of_allBlank fields
  intro line listed
  simp only [written, List.mem_cons, List.mem_append, List.mem_map] at listed
  rcases listed with rfl | rfl | rfl | ⟨row, inTable, rfl⟩ | last
  · refine filled_of_fields ?_
    rw [fields_versionLine writable.marker]
    simp
  · refine filled_of_fields ?_
    rw [fields_sizeLine]
    simp
  · refine filled_of_fields ?_
    rw [writable.fields_names]
    intro single
    obtain ⟨name, rfl, blank⟩ := List.map_eq_singleton_iff.1 single
    have filled := (writable.names name List.mem_cons_self).1
    rw [Text.trim_eq_nil_iff.1 blank] at filled
    cases filled
  · refine filled_of_fields ?_
    rw [fields_rowLine (writable.row_ne_nil (Array.mem_toList_iff.1 inTable))]
    intro single
    obtain ⟨channel, -, none⟩ := List.map_eq_singleton_iff.1 single
    exact Text.numeral_ne_nil _ none
  · obtain ⟨hash, found, rfl⟩ := Option.map_eq_some_iff.1 (Option.mem_toList.1 last)
    exact (writable.hash hash found).1

theorem reads (writable : c.Writable marker names) :
    Reads (Text.trim (c.versionLine marker)) (Text.trim c.sizeLine)
      (Text.trim (Text.joinFields names)) (c.rows.toList.map fun row => Text.trim (rowLine row))
      ((c.hash.map String.toList).toList.map Text.trim) c := by
  have inRange : c.laserCount < UInt64.size := by
    have fits := writable.shaped.someLasers.2
    rw [laserLimit] at fits
    have room : 128 < UInt64.size := by decide
    omega
  have version := fields_versionLine (c := c) writable.marker
  constructor
  · rw [Text.isVersionLine_trim, versionLine, Text.joinFields_cons_cons]
    exact writable.marker.isVersionLine _
  · rw [Text.fields_trim, version]
    exact Text.natural?_numeral writable.major
  · rw [Text.fields_trim, version]
    exact Text.natural?_numeral writable.minor
  · rw [Text.fields_trim, fields_sizeLine]
    exact Text.natural?_numeral inRange
  · rw [Text.fields_trim, fields_sizeLine]
    exact Text.natural?_numeral writable.blocks
  · exact writable.shaped.someLasers
  · exact writable.shaped.someBlocks
  · rw [Text.fields_trim, writable.fields_names, List.length_map, writable.count]
  · exact writable.shaped.someLoops.2
  · rw [List.length_map, Array.length_toList, writable.shaped.height]
  · rw [List.forall₂_map_left_iff, List.forall₂_same]
    intro row listed
    obtain ⟨width, channels⟩ := writable.isRow_rowLine (Array.mem_toList_iff.1 listed)
    exact ⟨width, by rwa [Text.fields_trim]⟩
  · cases known : c.hash with
    | none => rfl
    | some hash =>
      have kept := (writable.hash hash known).2
      simp [kept]

theorem parse_bytes (writable : c.Writable marker names) {s : Text.Sheet}
    (spaced : Text.Spaced (c.written marker names) s.lines) : parse s.bytes = .ok c := by
  refine parse_eq_ok_iff.2 ⟨_, _, _, _, _, ?_, writable.reads⟩
  rw [Text.Sheet.filledLines?_bytes, spaced.filter_of_filled writable.filled, written]
  simp only [List.map_cons, List.map_append, List.map_map, Function.comp_def]

end Writable

/-- Whatever is read as a table has its shape, so that exactly the wire positions of its loops have
a channel, the greatest of which is one of them. Whatever has this shape is read back from its
lines. -/
theorem tables_shaped_and_read_back :
    (∀ b c, parse b = .ok c →
      (1 ≤ c.loopCount ∧ c.loopCount ≤ 4) ∧ (1 ≤ c.laserCount ∧ c.laserCount ≤ 128) ∧
      1 ≤ c.blockCount ∧
      (∀ loop < c.loopCount, (c.column loop).length = c.laserCount ∧
        ∀ channel ∈ c.column loop, channel < 128) ∧
      (∀ loop position, (c.remap loop position).isSome ↔
        loop < c.loopCount ∧ position < c.laserCount) ∧
      c.maxChannel < 128 ∧ (∃ loop position, c.remap loop position = some c.maxChannel) ∧
      ∀ loop position channel, c.remap loop position = some channel → channel ≤ c.maxChannel) ∧
    ∀ (c : ChannelConfig) marker names (s : Text.Sheet), c.Writable marker names →
      Text.Spaced (c.written marker names) s.lines → parse s.bytes = .ok c := by
  refine ⟨fun b c parsed => ?_, fun c marker names s writable => writable.parse_bytes⟩
  have shaped := shaped_of_parse parsed
  obtain ⟨loop, position, greatest⟩ := shaped.exists_remap_maxChannel
  exact ⟨shaped.someLoops, shaped.someLasers, shaped.someBlocks,
    fun loop inside => ⟨shaped.length_column inside, fun channel => shaped.lt_of_mem_column⟩,
    fun loop position => shaped.isSome_remap_iff, shaped.remap_lt greatest,
    ⟨loop, position, greatest⟩, fun loop position channel => remap_le_maxChannel⟩

/-- Two loops of two wire positions, of which the last uses the last channel. -/
def crossedConfig : ChannelConfig where
  major := 1
  minor := 3
  laserCount := 2
  blockCount := 10
  loopCount := 2
  rows := #[#[0, 5], #[1, 127]]
  hash := some (String.ofList ['0', ',', 'x'])

def crossedSheet : Text.Sheet where
  ended := [
    (['\t'], .feed),
    (['e', 'E', 'F', 'f', ',', '1', ',', '3'], .returnFeed),
    (laserLabel ++ [',', '2', ','] ++ blockLabel ++ [',', '1', '0'], .returnFeed),
    (['A', ',', ' ', 'B'], .feed),
    ([], .feed),
    (['1', ',', '6'], .feed),
    (['2', ',', '1', '2', '8'], .returnFeed)]
  rest := ['0', ',', 'x']
  unbroken := by decide
  rest_unbroken := by decide

theorem writable_crossedConfig :
    crossedConfig.Writable ['e', 'E', 'F', 'f'] [['A'], [' ', 'B']] where
  shaped := ⟨by decide, by decide, by decide, rfl, by decide, by decide⟩
  major := by decide
  minor := by decide
  blocks := by decide
  marker := rfl
  count := rfl
  names := by decide
  hash := by
    rintro hash ⟨⟩
    rw [String.toList_ofList]
    decide

theorem tables_shaped_and_read_back_crossedConfig :
    crossedConfig.Writable ['e', 'E', 'F', 'f'] [['A'], [' ', 'B']] ∧
      Text.Spaced (crossedConfig.written ['e', 'E', 'F', 'f'] [['A'], [' ', 'B']])
        crossedSheet.lines ∧
      parse crossedSheet.bytes = .ok crossedConfig ∧ crossedConfig.maxChannel < 128 := by
  have spaced : Text.Spaced (crossedConfig.written ['e', 'E', 'F', 'f'] [['A'], [' ', 'B']])
      crossedSheet.lines := by
    rw [written, crossedConfig]
    exact .blank (by decide) (.line (.line (.line (.blank (by decide)
      (.line (.line (.line .nil)))))))
  have parsed := tables_shaped_and_read_back.2 _ _ _ _ writable_crossedConfig spaced
  exact ⟨writable_crossedConfig, spaced, parsed,
    (tables_shaped_and_read_back.1 _ _ parsed).2.2.2.2.2.1⟩

end Lidar.ChannelConfig
