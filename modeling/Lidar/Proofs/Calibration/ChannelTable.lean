import Lidar.Calibration.ChannelConfig
import Lidar.Proofs.Decoder.Directions
import Lidar.Proofs.Text.Numerals
import Lidar.Proofs.Text.Sheets

namespace Lidar.ChannelConfig

variable {b : Bytes} {c : ChannelConfig}

/-- A line is a row: the ids of the channels of one wire position, an id for each loop. -/
structure IsRow (loops : Nat) (line : List Char) (row : Array Nat) : Prop where
  width : row.size = loops
  channels : List.Forall₂ (fun field channel =>
    Text.integer? field = some ((channel + 1 : Nat) : Int) ∧ channel < laserLimit)
      (Text.fields line) row.toList

/-- What a table is read from: three lines of header, the lines of the table, and what comes
behind it, of which only the first line counts. -/
structure Reads (version size columns : List Char) (table behind : List (List Char))
    (c : ChannelConfig) : Prop where
  marked : Text.isVersionLine version = true
  major : Text.natural? UInt8.size (Text.fieldAt (Text.fields version) 1) = some c.major
  minor : Text.natural? UInt8.size (Text.fieldAt (Text.fields version) 2) = some c.minor
  lasers : Text.natural? UInt64.size (Text.fieldAt (Text.fields size) 1) = some c.laserCount
  blocks : Text.natural? UInt64.size (Text.fieldAt (Text.fields size) 3) = some c.blockCount
  someLasers : 1 ≤ c.laserCount ∧ c.laserCount ≤ laserLimit
  someBlocks : 1 ≤ c.blockCount
  loops : c.loopCount = (Text.fields columns).length
  fewLoops : c.loopCount ≤ loopLimit
  count : table.length = c.laserCount
  rows : List.Forall₂ (IsRow c.loopCount) table c.rows.toList
  hash : c.hash = behind.head?.map String.ofList

theorem Reads.exists_row {version size columns : List Char}
    {table behind : List (List Char)} (reads : Reads version size columns table behind c) :
    ∀ line ∈ table, ∃ row, IsRow c.loopCount line row := by
  intro line listed
  obtain ⟨row, -, isRow⟩ := exists_right_of_mem reads.rows listed
  exact ⟨row, isRow⟩

theorem readRow_eq_ok_iff {loops : Nat} {l : Text.Line} {row : Array Nat} :
    readRow loops l = .ok row ↔ IsRow loops (Text.trim l.text) row := by
  rw [readRow]
  simp only [bind_eq_ok_iff, guard_eq_ok_iff, mapM_eq_ok_iff, Text.laserId_eq_ok_iff]
  constructor
  · rintro ⟨width, ids, read, made⟩
    obtain rfl := Except.ok.inj made
    refine ⟨?_, by rwa [Text.fields_trim]⟩
    rw [List.size_toArray, ← read.length_eq, not_not.1 width]
  · rintro ⟨width, read⟩
    rw [Text.fields_trim] at read
    refine ⟨not_not.2 ?_, row.toList, read, rfl⟩
    rw [read.length_eq, Array.length_toList, width]

theorem parse_eq_ok_iff :
    parse b = .ok c ↔ ∃ version size columns table behind,
      Text.filledLines? b = some (version :: size :: columns :: (table ++ behind)) ∧
        Reads version size columns table behind c := by
  rw [parse]
  simp only [bind_eq_ok_iff, guard_eq_ok_iff, Text.ofBlob_eq_ok_iff, Text.readField_eq_ok_iff,
    Text.headerLine_eq_ok_iff, Text.readRows_eq_ok_iff, readRow_eq_ok_iff, Prod.exists]
  constructor
  · rintro ⟨text, decoded, version, _, lines, marked, major, hmajor, minor, hminor, size, _, rfl,
      lasers, hlasers, blocks, hblocks, someLasers, someBlocks, columns, _, rfl, fewLoops, rows,
      behind, ⟨table, rfl, count, read⟩, made⟩
    obtain rfl := Except.ok.inj made
    refine ⟨_, _, _, table.map fun l => Text.trim l.text, behind.map fun l => Text.trim l.text,
      Text.filledLines?_eq_some_iff.2 ⟨text, version, size, columns, table ++ behind, decoded,
        lines, rfl, rfl, rfl, List.map_append⟩, ?_⟩
    constructor <;> simp only [Text.isVersionLine_trim, Text.fields_trim]
    · simpa using marked
    · exact hmajor
    · exact hminor
    · exact hlasers
    · exact hblocks
    · omega
    · omega
    · omega
    · rw [List.length_map, count]
    · rwa [List.forall₂_map_left_iff]
    · rw [List.head?_map, Option.map_map]
      rfl
  · rintro ⟨version, size, columns, table, behind, read, reads⟩
    obtain ⟨text, v, s, k, ls, decoded, lines, rfl, rfl, rfl, body⟩ :=
      Text.filledLines?_eq_some_iff.1 read
    obtain ⟨table, behind, rfl, rfl, rfl⟩ := List.map_eq_append_iff.1 body
    obtain ⟨marked, major, minor, lasers, blocks, someLasers, someBlocks, loops, fewLoops, count,
      rows, hash⟩ := reads
    simp only [Text.isVersionLine_trim, Text.fields_trim] at marked major minor lasers blocks loops
    rw [List.length_map] at count
    rw [List.forall₂_map_left_iff] at rows
    rw [loops] at fewLoops rows
    refine ⟨text, decoded, v, _, lines, by simp [marked], _, major, _, minor, s, _, rfl, _, lasers,
      _, blocks, by omega, by omega, k, _, rfl, by omega, _, behind, ⟨table, rfl, count, rows⟩, ?_⟩
    rw [List.head?_map, Option.map_map] at hash
    cases c
    subst loops hash
    rfl

/-- A table with a channel of the sensor for each wire position of each loop. -/
structure Shaped (c : ChannelConfig) : Prop where
  someLoops : 1 ≤ c.loopCount ∧ c.loopCount ≤ loopLimit
  someLasers : 1 ≤ c.laserCount ∧ c.laserCount ≤ laserLimit
  someBlocks : 1 ≤ c.blockCount
  height : c.rows.size = c.laserCount
  width : ∀ row ∈ c.rows, row.size = c.loopCount
  channels : ∀ row ∈ c.rows, ∀ channel ∈ row, channel < laserLimit

theorem shaped_of_parse (parsed : parse b = .ok c) : c.Shaped := by
  obtain ⟨version, size, columns, table, behind, -, reads⟩ := parse_eq_ok_iff.1 parsed
  have each : ∀ row ∈ c.rows, ∃ line, IsRow c.loopCount line row := fun row listed => by
    obtain ⟨line, -, isRow⟩ := exists_left_of_mem reads.rows listed.val
    exact ⟨line, isRow⟩
  constructor
  · have some := List.length_pos_iff.2 (Text.fields_ne_nil columns)
    exact ⟨reads.loops ▸ some, reads.fewLoops⟩
  · exact reads.someLasers
  · exact reads.someBlocks
  · rw [← reads.count, reads.rows.length_eq, Array.length_toList]
  · intro row listed
    obtain ⟨line, isRow⟩ := each row listed
    exact isRow.width
  · intro row listed channel held
    obtain ⟨line, isRow⟩ := each row listed
    obtain ⟨field, -, -, inside⟩ := exists_left_of_mem isRow.channels held.val
    exact inside

/-- What a search for the greatest channel may have come to: nothing yet, or one of the channels. -/
def Reached (c : ChannelConfig) (m : Nat) : Prop :=
  m = 0 ∨ ∃ loop position, c.remap loop position = some m

namespace Shaped

variable {loop position channel : Nat}

theorem isSome_remap_iff (shaped : c.Shaped) :
    (c.remap loop position).isSome ↔ loop < c.loopCount ∧ position < c.laserCount := by
  rw [remap, Option.bind_eq_bind, Option.isSome_bind]
  cases found : c.rows[position]? with
  | none =>
    rw [Array.getElem?_eq_none_iff, shaped.height] at found
    simp [found]
  | some row =>
    obtain ⟨inside, rfl⟩ := Array.getElem?_eq_some_iff.1 found
    have width := shaped.width _ (Array.getElem_mem inside)
    rw [shaped.height] at inside
    simp [width, inside]

theorem remap_lt (shaped : c.Shaped) (found : c.remap loop position = some channel) :
    channel < laserLimit := by
  obtain ⟨row, hrow, hchannel⟩ := Option.bind_eq_some_iff.1 found
  exact shaped.channels row (Array.mem_of_getElem? hrow) channel (Array.mem_of_getElem? hchannel)

theorem exists_remap_of_mem {row : Array Nat} (listed : row ∈ c.rows) (held : channel ∈ row) :
    ∃ loop position, c.remap loop position = some channel := by
  obtain ⟨position, hrow⟩ := Array.mem_iff_getElem?.1 listed
  obtain ⟨loop, hchannel⟩ := Array.mem_iff_getElem?.1 held
  exact ⟨loop, position, Option.bind_eq_some_iff.2 ⟨row, hrow, hchannel⟩⟩

/-- The greatest channel of a table that is not empty is one of its channels. -/
theorem exists_remap_maxChannel (shaped : c.Shaped) :
    ∃ loop position, c.remap loop position = some c.maxChannel := by
  have inRow (row : Array Nat) (listed : row ∈ c.rows) (m : Nat) (reached : c.Reached m) :
      c.Reached (row.foldl max m) := by
    rw [← Array.foldl_toList]
    refine List.foldlRecOn _ _ reached fun n reached channel held => ?_
    rcases Nat.le_total n channel with le | le
    · rw [Nat.max_eq_right le]
      exact .inr (exists_remap_of_mem listed (Array.mem_toList_iff.1 held))
    · rwa [Nat.max_eq_left le]
  have reached : c.Reached c.maxChannel := by
    rw [maxChannel, ← Array.foldl_toList]
    exact List.foldlRecOn _ _ (.inl rfl) fun m reached row listed =>
      inRow row (Array.mem_toList_iff.1 listed) m reached
  rcases reached with zero | reached
  · obtain ⟨first, found⟩ := Option.isSome_iff_exists.1
      (shaped.isSome_remap_iff.2 ⟨shaped.someLoops.1, shaped.someLasers.1⟩)
    have none : first = c.maxChannel := by
      have below := remap_le_maxChannel found
      omega
    exact ⟨0, 0, none ▸ found⟩
  · exact reached

theorem length_column (shaped : c.Shaped) (inside : loop < c.loopCount) :
    (c.column loop).length = c.laserCount := by
  rw [column, List.length_filterMap_eq_countP, ← shaped.height, ← Array.length_toList,
    List.countP_eq_length]
  intro row listed
  have width := shaped.width row (Array.mem_toList_iff.1 listed)
  rw [isSome_getElem?, width]
  exact inside

theorem lt_of_mem_column (shaped : c.Shaped) (listed : channel ∈ c.column loop) :
    channel < laserLimit := by
  obtain ⟨row, inTable, found⟩ := List.mem_filterMap.1 listed
  exact shaped.channels row (Array.mem_toList_iff.1 inTable) channel (Array.mem_of_getElem? found)

end Shaped

end Lidar.ChannelConfig
