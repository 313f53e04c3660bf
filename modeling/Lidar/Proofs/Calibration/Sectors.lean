import Lidar.Calibration.Sweep
import Mathlib.Data.Int.ModEq
import Mathlib.Order.Bounds.Defs
import Mathlib.Tactic.SplitIfs

namespace Lidar

theorem circle_eq : circle = 9216000 := rfl

namespace Sector

variable {s : Sector} {a : Int}

/-- Walking forward from the start, no farther than to the stop, comes past the azimuth. -/
def Passes (s : Sector) (a : Int) : Prop :=
  ∃ d, 0 ≤ d ∧ d ≤ (s.stop - s.start) % circle ∧ a ≡ s.start + d [ZMOD circle]

/-- The ways from the start to the azimuth and on to the stop add up to the way from start to stop
or to a full circle more, so it is enough to compare the first with the last. -/
theorem contains_iff_le :
    s.contains a = true ↔ (a - s.start) % circle ≤ (s.stop - s.start) % circle := by
  rw [contains, decide_eq_true_eq, circle_eq]
  omega

theorem passes_iff_le :
    s.Passes a ↔ (a - s.start) % circle ≤ (s.stop - s.start) % circle := by
  rw [Passes, circle_eq]
  constructor
  · rintro ⟨d, forward, inside, reached⟩
    rw [Int.ModEq] at reached
    omega
  · intro inside
    refine ⟨(a - s.start) % 9216000, by omega, inside, ?_⟩
    rw [Int.ModEq]
    omega

theorem contains_iff_passes : s.contains a = true ↔ s.Passes a :=
  contains_iff_le.trans passes_iff_le.symm

/-- Counted from zero, an arc is one stretch of the circle or, if it passes through zero, all but
one. -/
theorem passes_iff_between : s.Passes a ↔
    if s.start % circle ≤ s.stop % circle then
      s.start % circle ≤ a % circle ∧ a % circle ≤ s.stop % circle
    else s.start % circle ≤ a % circle ∨ a % circle ≤ s.stop % circle := by
  rw [passes_iff_le, circle_eq]
  split_ifs <;> omega

theorem passes_start (s : Sector) : s.Passes s.start := by
  rw [passes_iff_le, circle_eq]
  omega

theorem passes_stop (s : Sector) : s.Passes s.stop :=
  passes_iff_le.2 (Int.le_refl _)

theorem passes_emod : s.Passes (a % circle) ↔ s.Passes a := by
  rw [passes_iff_le, passes_iff_le, circle_eq]
  omega

/-- The sector with full circles added to its start and its stop. -/
def turned (s : Sector) (startTurns stopTurns : Int) : Sector where
  start := s.start + startTurns * circle
  stop := s.stop + stopTurns * circle

theorem passes_turned {startTurns stopTurns : Int} :
    (s.turned startTurns stopTurns).Passes a ↔ s.Passes a := by
  rw [passes_iff_le, passes_iff_le, turned, circle_eq]
  dsimp only
  omega

end Sector

namespace SweepCalibration

variable {c : SweepCalibration} {a : Int} {i : Nat}

/-- The azimuth lies on the arc of a field. -/
def Passes (c : SweepCalibration) (a : Int) (i : Nat) : Prop :=
  ∃ s, c.fields[i]? = some s ∧ s.Passes a

theorem field?_eq_some_iff : c.field? a = some i ↔ IsLeast {i | c.Passes a i} i := by
  rw [field?, Array.findIdx?_eq_some_iff_getElem]
  simp only [Sector.contains_iff_passes, Sector.passes_emod]
  constructor
  · rintro ⟨inside, passes, first⟩
    refine ⟨⟨_, Array.getElem?_eq_getElem inside, passes⟩, ?_⟩
    rintro j ⟨s, hs, passed⟩
    obtain ⟨listed, rfl⟩ := Array.getElem?_eq_some_iff.1 hs
    exact Nat.not_lt.1 fun before => first j before passed
  · rintro ⟨⟨s, hs, passes⟩, first⟩
    obtain ⟨inside, rfl⟩ := Array.getElem?_eq_some_iff.1 hs
    refine ⟨inside, passes, fun j before passed => ?_⟩
    exact Nat.not_le.2 before (first ⟨_, Array.getElem?_eq_getElem _, passed⟩)

theorem field?_eq_none_iff : c.field? a = none ↔ ∀ i, ¬c.Passes a i := by
  rw [field?, Array.findIdx?_eq_none_iff]
  simp only [← Bool.not_eq_true, Sector.contains_iff_passes, Sector.passes_emod]
  constructor
  · rintro none i ⟨s, hs, passes⟩
    exact none s (Array.mem_of_getElem? hs) passes
  · intro none s listed passes
    obtain ⟨i, hs⟩ := Array.getElem?_of_mem listed
    exact none i ⟨s, hs, passes⟩

/-- An azimuth on the arc of a field is in this field or in one before it. -/
theorem exists_field?_le (passes : c.Passes a i) : ∃ j ≤ i, c.field? a = some j := by
  cases found : c.field? a with
  | none => exact absurd passes (field?_eq_none_iff.1 found i)
  | some j => exact ⟨j, (field?_eq_some_iff.1 found).2 passes, rfl⟩

theorem field?_add_turns (turns : Int) : c.field? (a + turns * circle) = c.field? a := by
  rw [field?, field?, Int.add_mul_emod_self_right]

/-- The calibration with full circles added to the starts and the stops of its fields, as many as
are given for each. -/
def turned (c : SweepCalibration) (startTurns stopTurns : Nat → Int) : SweepCalibration :=
  { c with fields := c.fields.mapIdx fun i s => s.turned (startTurns i) (stopTurns i) }

section Turned

variable {startTurns stopTurns : Nat → Int}

theorem passes_turned : (c.turned startTurns stopTurns).Passes a i ↔ c.Passes a i := by
  have place : (c.turned startTurns stopTurns).fields[i]? =
      c.fields[i]?.map fun s => s.turned (startTurns i) (stopTurns i) := Array.getElem?_mapIdx
  rw [Passes, Passes, place]
  cases c.fields[i]? with
  | none => simp
  | some s => simp [Sector.passes_turned]

theorem field?_turned : (c.turned startTurns stopTurns).field? a = c.field? a := by
  apply Option.ext
  intro i
  simp only [field?_eq_some_iff, passes_turned]

end Turned

/-- The field of an azimuth is the first whose arc it lies on. Both ends lie on an arc, and an arc
may pass through zero; full circles more or less, in the azimuth, in a start or in a stop, make no
difference. -/
theorem field_is_first_arc (c : SweepCalibration) (a : Int) :
    (∀ i, c.field? a = some i ↔ IsLeast {i | c.Passes a i} i) ∧
    (c.field? a = none ↔ ∀ i, ¬c.Passes a i) ∧
    (∀ i s, c.fields[i]? = some s →
      (∃ j ≤ i, c.field? s.start = some j) ∧ (∃ j ≤ i, c.field? s.stop = some j) ∧
      (s.stop % circle < s.start % circle →
        (s.Passes a ↔ s.start % circle ≤ a % circle ∨ a % circle ≤ s.stop % circle))) ∧
    (∀ turns, c.field? (a + turns * circle) = c.field? a) ∧
    ∀ startTurns stopTurns, (c.turned startTurns stopTurns).field? a = c.field? a := by
  refine ⟨fun i => field?_eq_some_iff, field?_eq_none_iff, fun i s hs => ⟨?_, ?_, ?_⟩,
    field?_add_turns, fun _ _ => field?_turned⟩
  · exact exists_field?_le ⟨s, hs, s.passes_start⟩
  · exact exists_field?_le ⟨s, hs, s.passes_stop⟩
  · intro throughZero
    rw [Sector.passes_iff_between, if_neg (Int.not_le.2 throughZero)]

/-- Two fields, of which the first passes through zero and the second begins on the first. -/
def zeroFields : SweepCalibration where
  major := 1
  minor := 5
  channelNumber := 0
  facetNumber := 2
  frameNumber := 2
  frameConfig := .replicate 8 0
  resolution := 1
  fields := #[⟨9215000, 1000⟩, ⟨500, 9000⟩]
  channels := #[]
  azimuthOffsets := #[]
  elevationOffsets := #[]
  digest := .replicate 32 0

/-- The second field begins where the first still goes on, so its own start is in the first. -/
theorem field_is_first_arc_zeroFields :
    zeroFields.fields[1]? = some ⟨500, 9000⟩ ∧ (∃ j ≤ 1, zeroFields.field? 500 = some j) ∧
      (∃ j ≤ 0, zeroFields.field? 1000 = some j) ∧ zeroFields.field? 500 = some 0 ∧
      zeroFields.field? (500 + -3 * circle) = some 0 := by
  obtain ⟨found, -, ends, turns, -⟩ := field_is_first_arc zeroFields 500
  obtain ⟨-, -, zero⟩ := ends 0 ⟨9215000, 1000⟩ rfl
  have passed : zeroFields.Passes 500 0 := ⟨_, rfl, (zero (by decide)).2 (.inr (by decide))⟩
  have first : zeroFields.field? 500 = some 0 := (found 0).2 ⟨passed, fun j _ => Nat.zero_le j⟩
  exact ⟨rfl, (ends 1 _ rfl).1, (ends 0 _ rfl).2.1, first, (turns (-3)).trans first⟩

end SweepCalibration

end Lidar
