import Lidar.Proofs.Calibration.FiringTable
import Lidar.Proofs.Text.Numerals
import Mathlib.Data.List.Nodup

namespace Lidar.FireTimes

variable {b : Bytes} {f : FireTimes} {loops loop channel : Nat} {initial time : Float32}
  {pair : List Char × List Char} {pairs : List (List Char × List Char)} {entries : List Entry}
  {version size : List Char} {table table' : List (List Char)} {rows rows' : List (List Entry)}

/-- What the pairs of a loop leave of the time of a channel: that of the last pair that names it,
or what was there before. -/
inductive Filed (initial : Float32) (pairs : List (List Char × List Char)) (channel : Nat) :
    Float32 → Prop
  | named {front later : List (List Char × List Char)} {pair : List Char × List Char}
      {time : Float32} (lines : pairs = front ++ pair :: later)
      (entry : IsEntry pair ⟨channel, time⟩) (last : ∀ p ∈ later, ¬Names p channel) :
      Filed initial pairs channel time
  | unnamed (none : ∀ p ∈ pairs, ¬Names p channel) : Filed initial pairs channel initial

/-- What stands before the last pair that names a channel does not matter. -/
theorem Filed.cons_of_named {before : Float32} {front later : List (List Char × List Char)}
    {p : List Char × List Char} (lines : pairs = front ++ p :: later)
    (entry : IsEntry p ⟨channel, time⟩) (last : ∀ q ∈ later, ¬Names q channel) :
    Filed before (pair :: pairs) channel time := by
  have more : pair :: pairs = pair :: front ++ p :: later := congrArg (pair :: ·) lines
  exact .named more entry last

theorem Filed.cons_of_entry {before : Float32} (filed : Filed initial pairs channel time)
    (entry : IsEntry pair ⟨channel, initial⟩) : Filed before (pair :: pairs) channel time := by
  cases filed with
  | named lines later last => exact .cons_of_named lines later last
  | unnamed none => exact .named (List.nil_append _).symm entry none

theorem Filed.cons_of_other (filed : Filed initial pairs channel time)
    (other : ¬Names pair channel) : Filed initial (pair :: pairs) channel time := by
  cases filed with
  | named lines later last => exact .cons_of_named lines later last
  | unnamed none => exact .unnamed (List.forall_mem_cons.2 ⟨other, none⟩)

theorem Entry.size_store (e : Entry) (times : Array Float32) :
    (e.store times).size = times.size :=
  Array.size_setIfInBounds

theorem Entry.size_foldl_store (entries : List Entry) (times : Array Float32) :
    (entries.foldl Entry.store times).size = times.size := by
  induction entries generalizing times with
  | nil => rfl
  | cons e entries ih => rw [List.foldl_cons, ih, size_store]

/-- Times are filed one after the other, and each replaces only that of its own channel. -/
theorem filed_foldl_store {times : Array Float32} (read : List.Forall₂ IsEntry pairs entries)
    (inside : channel < times.size) :
    Filed (times[channel]?.getD 0) pairs channel
      ((entries.foldl Entry.store times)[channel]?.getD 0) := by
  induction read generalizing times with
  | nil => exact .unnamed nofun
  | @cons pair e pairs entries entry _ ih =>
    have filed := ih (e.size_store times ▸ inside)
    by_cases same : e.channel = channel
    · subst same
      have stored : (e.store times)[e.channel]? = some e.time :=
        Array.getElem?_setIfInBounds_self_of_lt inside
      rw [stored] at filed
      exact filed.cons_of_entry entry
    · have kept : (e.store times)[channel]? = times[channel]? :=
        Array.getElem?_setIfInBounds_ne same
      rw [kept] at filed
      exact filed.cons_of_other fun named => same (entry.id.unique named)

/-- The pairs of a loop, line by line. -/
def column (table : List (List Char)) (loop : Nat) : List (List Char × List Char) :=
  table.map (pairAt · loop)

theorem forall₂_column (read : List.Forall₂ (IsRow loops) table rows) (inside : loop < loops) :
    List.Forall₂ IsEntry (column table loop) (rows.filterMap (·[loop]?)) := by
  induction read with
  | nil => exact .nil
  | @cons line row table rows first _ ih =>
    have room : loop < row.length := first.count ▸ inside
    have found : row[loop]? = some row[loop] := List.getElem?_eq_getElem room
    rw [List.filterMap_cons_some (f := (·[loop]?)) found]
    exact .cons (first.entries loop _ found) ih

theorem loopCount_ofRows (loops : Nat) (rows : List (List Entry)) :
    (ofRows loops rows).loopCount = loops := Array.size_ofFn

theorem get_ofRows (inside : loop < loops) :
    (ofRows loops rows).get loop channel =
      (loopOf (rows.filterMap (·[loop]?)))[channel]?.getD 0 := by
  have found : (ofRows loops rows).loops[loop]? = some (loopOf (rows.filterMap (·[loop]?))) := by
    rw [ofRows, Array.getElem?_ofFn, dif_pos inside]
  rw [get, found, Option.bind_some]

theorem size_loopOf (entries : List Entry) : (loopOf entries).size = laserLimit := by
  rw [loopOf, Entry.size_foldl_store, Array.size_replicate]

theorem get_ofRows_of_le (outside : loops ≤ loop ∨ laserLimit ≤ channel) :
    (ofRows loops rows).get loop channel = 0 := by
  by_cases inside : loop < loops
  · have beyond : laserLimit ≤ channel := outside.resolve_left (Nat.not_le.2 inside)
    rw [get_ofRows inside, Array.getElem?_eq_none (size_loopOf _ ▸ beyond), Option.getD_none]
  · rw [get, Array.getElem?_eq_none]
    · rfl
    · rw [ofRows, Array.size_ofFn]
      exact Nat.not_lt.1 inside

theorem filed_get (read : List.Forall₂ (IsRow loops) table rows) (inside : loop < loops)
    (onSensor : channel < laserLimit) :
    Filed 0 (column table loop) channel ((ofRows loops rows).get loop channel) := by
  have room : channel < (Array.replicate laserLimit (0 : Float32)).size := by
    rwa [Array.size_replicate]
  have filed := filed_foldl_store (forall₂_column read inside) room
  rw [Array.getElem?_replicate, if_pos onSensor] at filed
  rw [get_ofRows inside]
  exact filed

/-- The times of a table are all there is to it. -/
theorem ofRows_eq_of_get (same : ∀ loop < loops, ∀ channel < laserLimit,
    (ofRows loops rows).get loop channel = (ofRows loops rows').get loop channel) :
    ofRows loops rows = ofRows loops rows' := by
  rw [ofRows, ofRows]
  congr 2
  funext loop
  refine Array.ext (by rw [size_loopOf, size_loopOf]) fun channel left right => ?_
  have times := same loop loop.isLt channel (size_loopOf _ ▸ left)
  rw [get_ofRows loop.isLt, get_ofRows loop.isLt, Array.getElem?_eq_getElem left,
    Array.getElem?_eq_getElem right] at times
  exact times

/-- Each channel of the sensor is named once. -/
def NamesEachOnce (pairs : List (List Char × List Char)) : Prop :=
  ∀ channel < laserLimit, pairs.countP (Names · channel) = 1

theorem eq_of_names {pair' : List Char × List Char}
    (once : pairs.countP (Names · channel) = 1) (listed : pair ∈ pairs) (listed' : pair' ∈ pairs)
    (named : Names pair channel) (named' : Names pair' channel) : pair = pair' := by
  rw [List.countP_eq_length_filter, List.length_eq_one_iff] at once
  obtain ⟨only, filtered⟩ := once
  have first : pair ∈ pairs.filter (Names · channel) := List.mem_filter.2 ⟨listed, by simpa⟩
  have second : pair' ∈ pairs.filter (Names · channel) := List.mem_filter.2 ⟨listed', by simpa⟩
  rw [filtered, List.mem_singleton] at first second
  rw [first, second]

theorem Filed.exists_entry (once : pairs.countP (Names · channel) = 1)
    (filed : Filed initial pairs channel time) : ∃ p ∈ pairs, IsEntry p ⟨channel, time⟩ := by
  cases filed with
  | named lines entry _ => exact ⟨_, by simp [lines], entry⟩
  | unnamed none =>
    have zero : pairs.countP (Names · channel) = 0 :=
      List.countP_eq_zero.2 fun p listed => by simpa using none p listed
    omega

/-- A channel that is named once has its time, wherever the pair stands. -/
theorem Filed.eq_of_perm {pairs' : List (List Char × List Char)} {initial' time' : Float32}
    (once : pairs.countP (Names · channel) = 1) (moved : pairs'.Perm pairs)
    (filed : Filed initial pairs channel time) (filed' : Filed initial' pairs' channel time') :
    time = time' := by
  obtain ⟨p, listed, entry⟩ := filed.exists_entry once
  obtain ⟨p', listed', entry'⟩ := filed'.exists_entry (moved.countP_eq _ ▸ once)
  obtain rfl := eq_of_names once listed (moved.subset listed') entry.id entry'.id
  exact congrArg Entry.time (entry.unique entry')

/-- The pairs of each loop stand in other lines. -/
structure Rearranged (loops : Nat) (table table' : List (List Char)) : Prop where
  width : ∀ line ∈ table', (Text.fields line).length = 2 * loops
  columns : ∀ loop < loops, (column table' loop).Perm (column table loop)

theorem exists_row {line : List Char} (width : (Text.fields line).length = 2 * loops)
    (each : ∀ loop < loops, ∃ e, IsEntry (pairAt line loop) e) : ∃ row, IsRow loops line row := by
  have some : ∀ loop ∈ List.range loops, ∃ e, IsEntry (pairAt line loop) e :=
    fun loop listed => each loop (List.mem_range.1 listed)
  obtain ⟨row, read⟩ := exists_forall₂ some
  have count : row.length = loops := by rw [← read.length_eq, List.length_range]
  refine ⟨row, width, count, fun loop e found => ?_⟩
  obtain ⟨inside, rfl⟩ := List.getElem?_eq_some_iff.1 found
  have entry := List.Forall₂.get read (by rw [List.length_range, ← count]; exact inside) inside
  rwa [List.get_eq_getElem, List.get_eq_getElem, List.getElem_range] at entry

theorem Rearranged.exists_rows (rearranged : Rearranged loops table table')
    (read : List.Forall₂ (IsRow loops) table rows) :
    ∃ rows, List.Forall₂ (IsRow loops) table' rows := by
  refine exists_forall₂ fun line listed => exists_row (rearranged.width line listed) ?_
  intro loop inside
  have moved : pairAt line loop ∈ column table loop :=
    (rearranged.columns loop inside).subset (List.mem_map_of_mem listed)
  obtain ⟨e, -, entry⟩ := exists_right_of_mem (forall₂_column read inside) moved
  exact ⟨e, entry⟩

theorem Reads.length_of_rearranged (reads : Reads version size table loops rows)
    (rearranged : Rearranged loops table table') : table'.length = laserLimit := by
  have lengths := (rearranged.columns 0 reads.someLoops.1).length_eq
  rw [column, column, List.length_map, List.length_map] at lengths
  rw [lengths, reads.count]

/-- A table in another order is read, and as the same. -/
theorem Reads.rearranged (reads : Reads version size table loops rows)
    (once : ∀ loop < loops, NamesEachOnce (column table loop))
    (rearranged : Rearranged loops table table') :
    ∃ rows', Reads version size table' loops rows' ∧ ofRows loops rows' = ofRows loops rows := by
  obtain ⟨rows', read⟩ := rearranged.exists_rows reads.rows
  refine ⟨rows', ⟨reads.marked, reads.stated, reads.someLoops,
    reads.length_of_rearranged rearranged, read⟩, ofRows_eq_of_get ?_⟩
  intro loop inside channel onSensor
  exact ((filed_get reads.rows inside onSensor).eq_of_perm (once loop inside channel onSensor)
    (rearranged.columns loop inside) (filed_get read inside onSensor)).symm

theorem Reads.rearranged_of_perm (reads : Reads version size table loops rows)
    (moved : table'.Perm table) : Rearranged loops table table' where
  width line listed := by
    obtain ⟨row, isRow⟩ := reads.exists_row line (moved.subset listed)
    exact isRow.width
  columns loop _ := moved.map _

/-- The time of a laser is that of the last line that names it, in each loop. So a table in which
each loop names every laser once is the same whatever the order of its lines, and whatever the order
of the pairs of each loop. -/
theorem times_filed_by_laser (parsed : parse b = .ok f) :
    ∃ version size columns table behind,
      Text.filledLines? b = some (version :: size :: columns :: (table ++ behind)) ∧
      table.length = 128 ∧
      Text.natural? UInt64.size (Text.fieldAt (Text.fields size) 3) = some f.loopCount ∧
      (∀ loop < f.loopCount, ∀ channel < 128,
        Filed 0 (column table loop) channel (f.get loop channel)) ∧
      (∀ loop channel, f.loopCount ≤ loop ∨ 128 ≤ channel → f.get loop channel = 0) ∧
      ((∀ loop < f.loopCount, NamesEachOnce (column table loop)) →
        ∀ b' table' behind',
          Text.filledLines? b' = some (version :: size :: columns :: (table' ++ behind')) →
          (table'.Perm table → parse b' = .ok f) ∧
          (Rearranged f.loopCount table table' → parse b' = .ok f)) := by
  obtain ⟨version, size, columns, table, behind, loops, rows, lines, reads, rfl⟩ :=
    parse_eq_ok_iff.1 parsed
  rw [loopCount_ofRows]
  refine ⟨version, size, columns, table, behind, lines, reads.count, reads.stated,
    fun loop inside channel onSensor => filed_get reads.rows inside onSensor,
    fun loop channel outside => get_ofRows_of_le outside, ?_⟩
  intro once b' table' behind' lines'
  have read (rearranged : Rearranged loops table table') :
      parse b' = .ok (ofRows loops rows) := by
    obtain ⟨rows', reads', same⟩ := reads.rearranged once rearranged
    exact parse_eq_ok_iff.2
      ⟨version, size, columns, table', behind', loops, rows', lines', reads', same.symm⟩
  exact ⟨fun moved => read (reads.rearranged_of_perm moved), read⟩

/-- A line of two loops in which each laser fires after as many microseconds as its id says. -/
def steadyLine (one two : Nat) : List Char :=
  Text.joinFields [Text.numeral one, Text.numeral one, Text.numeral two, Text.numeral two]

/-- The lasers are listed forwards in the first loop and backwards in the second. -/
def crossedTable : List (List Char) := (List.range 128).map fun k => steadyLine (k + 1) (128 - k)

def straightTable : List (List Char) := (List.range 128).map fun k => steadyLine (k + 1) (k + 1)

def timesVersion : List Char := ['E', 'E', 'F', 'F']

def timesSize : List Char := ['L', 'o', 'o', 'p', ',', ',', ',', '2']

def timesColumns : List Char := ['T']

def timesLines (table : List (List Char)) : List (List Char) :=
  timesVersion :: timesSize :: timesColumns :: table

def crossedTimes : Text.Sheet := .ofLines (timesLines crossedTable) (by decide +kernel)

def straightTimes : Text.Sheet := .ofLines (timesLines straightTable) (by decide +kernel)

theorem fields_steadyLine (one two : Nat) : Text.fields (steadyLine one two) =
    [Text.numeral one, Text.numeral one, Text.numeral two, Text.numeral two] := by
  rw [steadyLine, Text.fields_joinFields (List.cons_ne_nil _ _)]
  · simp
  · simp [Text.not_mem_numeral]

/-- A pair of an id and as many microseconds. -/
def steadyPair (id : Nat) : List Char × List Char := (Text.numeral id, Text.numeral id)

theorem isEntry_steadyPair (small : channel < 128) :
    ∃ e, IsEntry (steadyPair (channel + 1)) e := by
  have times : ∀ k < 128, (Text.Decimal.read? (Text.numeral (k + 1))).isSome = true := by
    decide +kernel
  obtain ⟨t, read⟩ := Option.isSome_iff_exists.1 (times channel small)
  exact ⟨⟨channel, t.toFloat32⟩, Text.integer?_numeral (by omega), small,
    congrArg (Option.map _) read⟩

theorem namesEachOnce_forwards :
    NamesEachOnce ((List.range 128).map fun k => steadyPair (k + 1)) := by
  intro channel onSensor
  have names (k : Nat) (listed : k ∈ List.range 128) :
      Names (steadyPair (k + 1)) channel ↔ k = channel := by
    have small := List.mem_range.1 listed
    rw [Names, steadyPair, Text.integer?_numeral (by omega), Option.some.injEq]
    omega
  have once := List.count_eq_one_of_mem List.nodup_range (List.mem_range.2 onSensor)
  rw [List.countP_map]
  refine (List.countP_congr fun k listed => ?_).trans once
  simpa using names k listed

theorem backwards_perm :
    ((List.range 128).map fun k => steadyPair (128 - k)).Perm
      ((List.range 128).map fun k => steadyPair (k + 1)) := by
  have turned : (List.range 128).map (128 - ·) = ((List.range 128).map (· + 1)).reverse := by
    decide +kernel
  have moved := (turned ▸ List.reverse_perm ((List.range 128).map (· + 1))).map steadyPair
  rwa [List.map_map, List.map_map] at moved

theorem pairAt_steadyLine (one two : Nat) :
    pairAt (steadyLine one two) 0 = steadyPair one ∧
      pairAt (steadyLine one two) 1 = steadyPair two := by
  rw [pairAt, pairAt, fields_steadyLine]
  exact ⟨rfl, rfl⟩

theorem column_crossedTable :
    column crossedTable 0 = (List.range 128).map (fun k => steadyPair (k + 1)) ∧
      column crossedTable 1 = (List.range 128).map (fun k => steadyPair (128 - k)) := by
  simp only [column, crossedTable, List.map_map, Function.comp_def, pairAt_steadyLine, and_self]

theorem column_straightTable (inside : loop < 2) :
    column straightTable loop = (List.range 128).map (fun k => steadyPair (k + 1)) := by
  obtain rfl | rfl : loop = 0 ∨ loop = 1 := by omega
  all_goals
    simp only [column, straightTable, List.map_map, Function.comp_def, pairAt_steadyLine]

theorem rearranged_crossedTable : Rearranged 2 crossedTable straightTable where
  width line listed := by
    obtain ⟨k, -, rfl⟩ := List.mem_map.1 listed
    rw [fields_steadyLine]
    rfl
  columns loop inside := by
    rw [column_straightTable inside]
    obtain rfl | rfl : loop = 0 ∨ loop = 1 := by omega
    · rw [column_crossedTable.1]
    · rw [column_crossedTable.2]
      exact backwards_perm.symm

theorem namesEachOnce_crossedTable (inside : loop < 2) :
    NamesEachOnce (column crossedTable loop) := by
  intro channel onSensor
  rw [← (rearranged_crossedTable.columns loop inside).countP_eq, column_straightTable inside]
  exact namesEachOnce_forwards channel onSensor

theorem filledLines_crossedTimes :
    Text.filledLines? crossedTimes.bytes = some (timesLines crossedTable) :=
  Text.Sheet.filledLines?_ofLines _ (by decide +kernel)

theorem filledLines_straightTimes :
    Text.filledLines? straightTimes.bytes = some (timesLines straightTable) :=
  Text.Sheet.filledLines?_ofLines _ (by decide +kernel)

theorem exists_parse_crossedTimes : ∃ f, parse crossedTimes.bytes = .ok f := by
  have each : ∀ line ∈ crossedTable, ∃ row, IsRow 2 line row := by
    intro line listed
    obtain ⟨k, inRange, rfl⟩ := List.mem_map.1 listed
    have small := List.mem_range.1 inRange
    refine exists_row (by rw [fields_steadyLine]; rfl) fun loop inside => ?_
    obtain rfl | rfl : loop = 0 ∨ loop = 1 := by omega
    · rw [(pairAt_steadyLine _ _).1]
      exact isEntry_steadyPair small
    · rw [(pairAt_steadyLine _ _).2, show 128 - k = 127 - k + 1 by omega]
      exact isEntry_steadyPair (by omega)
  obtain ⟨rows, read⟩ := exists_forall₂ each
  have lines : Text.filledLines? crossedTimes.bytes =
      some (timesVersion :: timesSize :: timesColumns :: (crossedTable ++ [])) := by
    rw [filledLines_crossedTimes, timesLines, List.append_nil]
  exact ⟨ofRows 2 rows, parse_eq_ok_iff.2 ⟨_, _, _, _, _, 2, rows, lines,
    ⟨by decide, by decide, by decide, List.length_map _, read⟩, rfl⟩⟩

theorem times_filed_by_laser_crossedTimes : ∃ f, parse crossedTimes.bytes = .ok f ∧
    f.loopCount = 2 ∧ parse straightTimes.bytes = .ok f := by
  obtain ⟨f, parsed⟩ := exists_parse_crossedTimes
  obtain ⟨version, size, columns, table, behind, lines, count, stated, -, -, rearranged⟩ :=
    times_filed_by_laser parsed
  rw [filledLines_crossedTimes, timesLines, Option.some.injEq] at lines
  obtain ⟨rfl, others⟩ := List.cons.inj lines
  obtain ⟨rfl, last⟩ := List.cons.inj others
  obtain ⟨rfl, same⟩ := List.cons.inj last
  obtain ⟨rfl, -⟩ := List.append_inj ((List.append_nil _).trans same) (count ▸ rfl)
  have two : f.loopCount = 2 := by
    have read : Text.natural? UInt64.size (Text.fieldAt (Text.fields timesSize) 3) = some 2 := by
      decide
    exact Option.some.inj (stated.symm.trans read)
  rw [two] at rearranged
  have lines : Text.filledLines? straightTimes.bytes =
      some (timesVersion :: timesSize :: timesColumns :: (straightTable ++ [])) := by
    rw [filledLines_straightTimes, timesLines, List.append_nil]
  exact ⟨f, parsed, two, (rearranged (fun _ => namesEachOnce_crossedTable) _ _ _ lines).2
    rearranged_crossedTable⟩

end Lidar.FireTimes
