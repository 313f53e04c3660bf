import Lidar.Calibration.FireTimes
import Lidar.Proofs.Text.Sheets

namespace Lidar.FireTimes

variable {b : Bytes} {f : FireTimes} {line : List Char} {loops loop channel : Nat}

/-- The pair of a loop in a line: a laser id and a time. -/
def pairAt (line : List Char) (loop : Nat) : List Char × List Char :=
  (Text.fieldAt (Text.fields line) (2 * loop), Text.fieldAt (Text.fields line) (2 * loop + 1))

/-- A pair names a channel by its id. Ids count from one, channels from zero. -/
def Names (pair : List Char × List Char) (channel : Nat) : Prop :=
  Text.integer? pair.1 = some ((channel + 1 : Nat) : Int)

instance (pair : List Char × List Char) (channel : Nat) : Decidable (Names pair channel) :=
  inferInstanceAs (Decidable (_ = _))

theorem Names.unique {pair : List Char × List Char} {other : Nat} (one : Names pair channel)
    (two : Names pair other) : channel = other := by
  have same := Option.some.inj (one.symm.trans two)
  omega

/-- A pair is the entry of a channel. -/
structure IsEntry (pair : List Char × List Char) (e : Entry) : Prop where
  id : Names pair e.channel
  inside : e.channel < laserLimit
  time : (Text.Decimal.read? pair.2).map Text.Decimal.toFloat32 = some e.time

/-- A line has an entry for each loop. -/
structure IsRow (loops : Nat) (line : List Char) (row : List Entry) : Prop where
  width : (Text.fields line).length = 2 * loops
  count : row.length = loops
  entries : ∀ loop e, row[loop]? = some e → IsEntry (pairAt line loop) e

/-- What a table is read from: its header and as many lines as the sensor has lasers. -/
structure Reads (version size : List Char) (table : List (List Char)) (loops : Nat)
    (rows : List (List Entry)) : Prop where
  marked : Text.isVersionLine version = true
  stated : Text.natural? UInt64.size (Text.fieldAt (Text.fields size) 3) = some loops
  someLoops : 1 ≤ loops ∧ loops ≤ loopLimit
  count : table.length = laserLimit
  rows : List.Forall₂ (IsRow loops) table rows

theorem IsEntry.unique {pair : List Char × List Char} {d e : Entry} (hd : IsEntry pair d)
    (he : IsEntry pair e) : d = e := by
  obtain ⟨channel, time⟩ := d
  obtain rfl : channel = e.channel := hd.id.unique he.id
  obtain rfl : time = e.time := Option.some.inj (hd.time.symm.trans he.time)
  rfl

theorem Reads.exists_row {version size : List Char} {table : List (List Char)}
    {rows : List (List Entry)} (reads : Reads version size table loops rows) :
    ∀ line ∈ table, ∃ row, IsRow loops line row := by
  intro line listed
  obtain ⟨row, -, isRow⟩ := exists_right_of_mem reads.rows listed
  exact ⟨row, isRow⟩

theorem readPairs_eq_ok_iff {number : Nat} {fs : List (List Char)} {es : List Entry}
    (width : fs.length = 2 * loops) :
    readPairs number fs = .ok es ↔ es.length = loops ∧ ∀ loop e, es[loop]? = some e →
      IsEntry (Text.fieldAt fs (2 * loop), Text.fieldAt fs (2 * loop + 1)) e := by
  induction loops generalizing fs es with
  | zero =>
    obtain rfl := List.eq_nil_of_length_eq_zero width
    rw [readPairs]
    · cases es <;> simp
    · nofun
  | succ loops ih =>
    obtain ⟨id, time, rest, rfl⟩ : ∃ id time rest, fs = id :: time :: rest := by
      match fs with
      | [] => simp at width
      | [_] =>
        rw [List.length_singleton] at width
        omega
      | id :: time :: rest => exact ⟨id, time, rest, rfl⟩
    have later : rest.length = 2 * loops := by
      simp only [List.length_cons] at width
      omega
    rw [readPairs]
    simp only [bind_eq_ok_iff, Text.laserId_eq_ok_iff, Text.readField_eq_ok_iff, ih later]
    constructor
    · rintro ⟨channel, ⟨read, inside⟩, t, time, es, ⟨count, entries⟩, made⟩
      obtain rfl := Except.ok.inj made
      refine ⟨congrArg (· + 1) count, fun loop e found => ?_⟩
      cases loop with
      | zero =>
        cases found
        exact ⟨read, inside, congrArg (Option.map _) time⟩
      | succ loop => exact entries loop e found
    · rintro ⟨count, entries⟩
      cases es with
      | nil => cases count
      | cons e es =>
        obtain ⟨read, inside, time⟩ := entries 0 e rfl
        obtain ⟨t, ht, made⟩ := Option.map_eq_some_iff.1 time
        exact ⟨e.channel, ⟨read, inside⟩, t, ht, es,
          ⟨Nat.succ.inj count, fun loop d found => entries (loop + 1) d found⟩, by rw [made]; rfl⟩

theorem readRow_eq_ok_iff {l : Text.Line} {row : List Entry} :
    readRow loops l = .ok row ↔ IsRow loops (Text.trim l.text) row := by
  rw [readRow, guard_eq_ok_iff, not_not]
  constructor
  · rintro ⟨width, read⟩
    obtain ⟨count, entries⟩ := (readPairs_eq_ok_iff width).1 read
    refine ⟨by rwa [Text.fields_trim], count, ?_⟩
    simpa only [pairAt, Text.fields_trim] using entries
  · rintro ⟨width, count, entries⟩
    rw [Text.fields_trim] at width
    simp only [pairAt, Text.fields_trim] at entries
    exact ⟨width, (readPairs_eq_ok_iff width).2 ⟨count, entries⟩⟩

theorem parse_eq_ok_iff :
    parse b = .ok f ↔ ∃ version size columns table behind loops rows,
      Text.filledLines? b = some (version :: size :: columns :: (table ++ behind)) ∧
        Reads version size table loops rows ∧ f = ofRows loops rows := by
  rw [parse]
  simp only [bind_eq_ok_iff, guard_eq_ok_iff, Text.ofBlob_eq_ok_iff, Text.readField_eq_ok_iff,
    Text.headerLine_eq_ok_iff, Text.readRows_eq_ok_iff, readRow_eq_ok_iff, Prod.exists]
  constructor
  · rintro ⟨text, decoded, version, _, lines, marked, size, _, rfl, loops, hloops, someLoops,
      columns, _, rfl, rows, behind, ⟨table, rfl, count, read⟩, made⟩
    obtain rfl := Except.ok.inj made
    refine ⟨_, _, _, table.map fun l => Text.trim l.text, behind.map fun l => Text.trim l.text,
      loops, rows, Text.filledLines?_eq_some_iff.2 ⟨text, version, size, columns, table ++ behind,
        decoded, lines, rfl, rfl, rfl, List.map_append⟩, ?_, rfl⟩
    constructor
    · rw [Text.isVersionLine_trim]
      simpa using marked
    · rwa [Text.fields_trim]
    · omega
    · rw [List.length_map, count]
    · rwa [List.forall₂_map_left_iff]
  · rintro ⟨version, size, columns, table, behind, loops, rows, read, reads, rfl⟩
    obtain ⟨text, v, s, k, ls, decoded, lines, rfl, rfl, rfl, body⟩ :=
      Text.filledLines?_eq_some_iff.1 read
    obtain ⟨table, behind, rfl, rfl, rfl⟩ := List.map_eq_append_iff.1 body
    obtain ⟨marked, stated, someLoops, count, read⟩ := reads
    rw [Text.isVersionLine_trim] at marked
    rw [Text.fields_trim] at stated
    rw [List.length_map] at count
    rw [List.forall₂_map_left_iff] at read
    exact ⟨text, decoded, v, _, lines, by simp [marked], s, _, rfl, loops, stated, by omega, k, _,
      rfl, rows, behind, ⟨table, rfl, count, read⟩, rfl⟩

end Lidar.FireTimes
