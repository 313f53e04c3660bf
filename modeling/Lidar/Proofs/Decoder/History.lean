import Lidar.Proofs.Decoder.Flash

namespace Lidar

/-- A verdict without the word on the end of a frame. -/
def Verdict.unframed : Verdict → Verdict
  | accepted report => accepted { report with scanComplete := false }
  | v => v

theorem Family.pointCount_of_made {Tail Tables : Type} {f : Family Tail Tables} {tables : Tables}
    {packet : Bytes} {room : Nat} {made : Made} (h : f.made tables packet room = .ok (.ok made)) :
    made.report.pointCount = made.points.length := by
  obtain ⟨c, contents, points, -, -, -, rfl⟩ := made_ok h
  rfl

namespace Decoder

variable {d e : Decoder} {packet : Bytes} {a b : Buffers} {room : Nat}

theorem pointCount_of_made {made : Made} (h : d.made packet room = .ok (.ok made)) :
    made.report.pointCount = made.points.length := by
  cases d with
  | p128 s | qt128 s | at128 s => exact Family.pointCount_of_made h

/-- Two decoders of one model with the same calibration and, where there are such, the same channel
table, the same firing times and the same switch for them. -/
def SameTables : Decoder → Decoder → Prop
  | p128 s, p128 t => s.tables = t.tables
  | qt128 s, qt128 t => s.tables = t.tables
  | at128 s, at128 t => s.tables = t.tables
  | _, _ => False

theorem made_congr (same : d.SameTables e) (packet : Bytes) (room : Nat) :
    d.made packet room = e.made packet room := by
  cases d with
  | p128 s =>
    cases e with
    | p128 t => exact congrArg (P128.family.made · packet room) same
    | qt128 t | at128 t => cases same
  | qt128 s =>
    cases e with
    | qt128 t => exact congrArg (QT128.family.made · packet room) same
    | p128 t | at128 t => cases same
  | at128 s =>
    cases e with
    | at128 t => exact congrArg (AT128.family.made · packet room) same
    | p128 t | qt128 t => cases same

/-- Decoders that make the same of a packet answer alike, but for the end of a frame. -/
theorem decode_of_same_made (same : d.made packet a.room = e.made packet b.room) :
    (d.decode packet a).1.unframed = (e.decode packet b).1.unframed ∧
      (∀ report, (d.decode packet a).1 = .accepted report →
        (d.decode packet a).2.2.take report.pointCount =
          (e.decode packet b).2.2.take report.pointCount) ∧
      (d.splitter = e.splitter → (d.decode packet a).1 = (e.decode packet b).1) := by
  cases read : d.made packet a.room with
  | error reason =>
    rw [decode_eq_rejected read, decode_eq_rejected (same.symm.trans read)]
    exact ⟨rfl, fun _ => nofun, fun _ => rfl⟩
  | ok walked =>
    cases walked with
    | error fault =>
      rw [decode_eq_aborted read, decode_eq_aborted (same.symm.trans read)]
      exact ⟨rfl, fun _ => nofun, fun _ => rfl⟩
    | ok made =>
      rw [decode_eq_accepted read, decode_eq_accepted (same.symm.trans read)]
      refine ⟨rfl, ?_, ?_⟩
      · intro report accepted
        obtain rfl := Verdict.accepted.inj accepted
        have count : (made.reportFrom d.splitter).pointCount = made.points.length :=
          pointCount_of_made read
        rw [count, Buffers.take_overwrite, Buffers.take_overwrite]
      · intro splitters
        rw [splitters]

theorem SameTables.trans {f : Decoder} (first : d.SameTables e) (second : e.SameTables f) :
    d.SameTables f := by
  cases e with
  | p128 t =>
    cases d with
    | p128 s =>
      cases f with
      | p128 u => exact Eq.trans first second
      | qt128 u | at128 u => cases second
    | qt128 s | at128 s => cases first
  | qt128 t =>
    cases d with
    | qt128 s =>
      cases f with
      | qt128 u => exact Eq.trans first second
      | p128 u | at128 u => cases second
    | p128 s | at128 s => cases first
  | at128 t =>
    cases d with
    | at128 s =>
      cases f with
      | at128 u => exact Eq.trans first second
      | p128 u | qt128 u => cases second
    | p128 s | qt128 s => cases first

theorem sameTables_reset : d.SameTables d.reset := by
  cases d <;> rfl

/-- Two decoders with equal tables, whatever brought them there, refuse a packet for the same reason
or make the same points and the same report of it; only the word on the end of a frame may differ,
and does not if both remember the same azimuth. -/
theorem points_independent_of_history (m : Model) (past past' : List Operation) (packet : Bytes)
    (a b : Buffers) (tables : ((ofModel m).after past).SameTables ((ofModel m).after past'))
    (cartesian : a.cartesian.size = b.cartesian.size)
    (spherical : a.spherical.size = b.spherical.size) :
    let d := (ofModel m).after past
    let e := (ofModel m).after past'
    (d.decode packet a).1.unframed = (e.decode packet b).1.unframed ∧
      (∀ report, (d.decode packet a).1 = .accepted report →
        (d.decode packet a).2.2.take report.pointCount =
          (e.decode packet b).2.2.take report.pointCount) ∧
      (d.splitter = e.splitter → (d.decode packet a).1 = (e.decode packet b).1) := by
  intro d e
  have rooms : a.room = b.room := by rw [Buffers.room, Buffers.room, cartesian, spherical]
  apply decode_of_same_made
  rw [← rooms]
  exact made_congr tables packet a.room

/-- A decoder with a packet and a refused one behind it makes the same point as a new one, but takes
the packet for the end of a frame; after a reset it does not. -/
theorem points_of_flash_behind_another :
    let past : List Operation := [.loadCalibration oneLaser,
      .decode beforeTurn.bytes (.blank 1), .decode #[0xEE, 0xFF] (.blank 1)]
    let d := (ofModel .p128).after [.loadCalibration oneLaser]
    let e := (ofModel .p128).after past
    let e' := (ofModel .p128).after (past ++ [.reset])
    let decoded (d : Decoder) := d.decode afterTurn.bytes (.blank 1)
    d.SameTables e ∧ d.SameTables e' ∧
      (decoded d).1 = .accepted (afterTurn.report .start) ∧
      (decoded e).1 = .accepted (afterTurn.report ⟨35500⟩) ∧
      (afterTurn.report .start).scanComplete = false ∧
      (afterTurn.report ⟨35500⟩).scanComplete = true ∧
      (decoded d).1.unframed = (decoded e).1.unframed ∧
      (decoded d).2.2.take 1 = .ofPoints [afterTurn.point] ∧
      (decoded e).2.2.take 1 = .ofPoints [afterTurn.point] ∧
      (decoded d).1 = (decoded e').1 := by
  intro past d e e' decoded
  have roomy : 0 < (Buffers.blank 1).room := by decide
  have start : d = leveled .start Spinning.initialMotion := after_oneLaser
  have moved : e = leveled ⟨35500⟩ beforeTurn.motion := by
    have there := apply_flash beforeTurn .start Spinning.initialMotion roomy
    have walked : e = (d.apply (.decode beforeTurn.bytes (.blank 1))).apply
        (.decode #[0xEE, 0xFF] (.blank 1)) := rfl
    rw [walked, start, there, apply, decode_delimiter]
    rfl
  have cleared : e' = e.reset := List.foldl_append
  have tables : d.SameTables e := by
    rw [start, moved]
    rfl
  have tables' : d.SameTables e' := by
    rw [cleared]
    exact tables.trans sameTables_reset
  have accepted : (decoded d).1 = .accepted (afterTurn.report .start) := by
    simp only [decoded, start, decode_flash afterTurn _ _ roomy]
  have accepted' : (decoded e).1 = .accepted (afterTurn.report ⟨35500⟩) := by
    simp only [decoded, moved, decode_flash afterTurn _ _ roomy]
  have shown : (decoded d).2.2.take 1 = .ofPoints [afterTurn.point] := by
    simp only [decoded, start, decode_flash afterTurn _ _ roomy]
    exact Buffers.take_overwrite _ [afterTurn.point]
  have splitters : d.splitter = e'.splitter := by
    rw [cleared, moved, start]
    rfl
  obtain ⟨reports, points, -⟩ := points_independent_of_history .p128 [.loadCalibration oneLaser]
    past afterTurn.bytes (.blank 1) (.blank 1) tables rfl rfl
  obtain ⟨-, -, verdicts⟩ := points_independent_of_history .p128 [.loadCalibration oneLaser]
    (past ++ [.reset]) afterTurn.bytes (.blank 1) (.blank 1) tables' rfl rfl
  exact ⟨tables, tables', accepted, accepted', by decide, by decide, reports, shown,
    (points _ accepted).symm.trans shown, verdicts splitters⟩

end Decoder

end Lidar
