import Lidar.Proofs.Decoder.Directions
import Mathlib.Algebra.Order.Ring.Abs
import Mathlib.Data.Rat.Lemmas
import Mathlib.Tactic.FieldSimp
import Mathlib.Tactic.Linarith
import Mathlib.Tactic.Ring

namespace Lidar

/-- In units of the denominator, a whole number is missed by at most half of one. -/
theorem abs_num_sub_nearest_le (q : Rat) :
    2 * |q.num - q.den * Interpolating.nearest q| ≤ q.den := by
  have rounded : Interpolating.nearest q =
      q.num.sign * ((2 * q.num.natAbs + q.den) / (2 * q.den) : Nat) := rfl
  have positive : 0 < 2 * q.den := Nat.mul_pos (by decide) q.den_pos
  have below := Nat.mul_div_le (2 * q.num.natAbs + q.den) (2 * q.den)
  have above := Nat.lt_mul_div_succ (2 * q.num.natAbs + q.den) positive
  rw [rounded]
  generalize (2 * q.num.natAbs + q.den) / (2 * q.den) = n at below above
  rw [Nat.mul_assoc] at below
  rw [Nat.mul_succ, Nat.mul_assoc] at above
  have moved : (q.den : Int) * (q.num.sign * n) = q.num.sign * (q.den * n : Nat) := by
    rw [Nat.cast_mul, Int.mul_left_comm]
  rw [moved, Int.abs_eq_natAbs]
  generalize q.den * n = m at below above
  rcases lt_trichotomy q.num 0 with negative | zero | positive
  · rw [Int.sign_eq_neg_one_of_neg negative]
    omega
  · rw [zero, Int.sign_zero]
    omega
  · rw [Int.sign_eq_one_of_pos positive]
    omega

theorem abs_nearest_sub_le (q : Rat) : 2 * |(Interpolating.nearest q : Rat) - q| ≤ 1 := by
  have close : (2 * |(q.num : Rat) - q.den * Interpolating.nearest q|) ≤ q.den := by
    exact_mod_cast abs_num_sub_nearest_le q
  have positive : (0 : Rat) < q.den := by exact_mod_cast q.den_pos
  have scaled : (q.num : Rat) - q.den * Interpolating.nearest q =
      -(q.den * (Interpolating.nearest q - q)) := by
    rw [← Rat.mul_den_eq_num q]
    ring
  rw [scaled, abs_neg, abs_mul, abs_of_pos positive] at close
  nlinarith

/-- The value at `j` steps of `step` is at most half a unit from the line, here multiplied by
`step`. -/
theorem interpolate_near {step : Int} (positive : 0 < step) (lo hi j : Int) :
    2 * |step * interpolate Rat step lo hi j - ((step - j) * lo + j * hi)| ≤ step := by
  let k : Rat := j / step
  let q : Rat := (1 - k) * lo + k * hi
  have rounded : interpolate Rat step lo hi j = Interpolating.nearest q := rfl
  have close := abs_nearest_sub_le q
  have scale : (0 : Rat) < step := by exact_mod_cast positive
  have line : (step : Rat) * q = (step - j) * lo + j * hi := by
    simp only [q, k]
    field_simp
  have exact :
      (2 * |step * (Interpolating.nearest q : Rat) - ((step - j) * lo + j * hi)|) ≤ step := by
    rw [← line, ← mul_sub, abs_mul, abs_of_pos scale]
    nlinarith
  rw [rounded]
  exact_mod_cast exact

/-- Whoever is at most half a step from a point between two whole numbers is between them. -/
theorem between_of_near {step lo hi j x : Int} (positive : 0 < step) (start : 0 ≤ j)
    (stop : j ≤ step) (near : 2 * |step * x - ((step - j) * lo + j * hi)| ≤ step) :
    min lo hi ≤ x ∧ x ≤ max lo hi := by
  have rest : 0 ≤ step - j := by omega
  have least : step * min lo hi ≤ (step - j) * lo + j * hi := calc
    step * min lo hi = (step - j) * min lo hi + j * min lo hi := by ring
    _ ≤ (step - j) * lo + j * hi := Int.add_le_add
      (Int.mul_le_mul_of_nonneg_left (min_le_left lo hi) rest)
      (Int.mul_le_mul_of_nonneg_left (min_le_right lo hi) start)
  have greatest : (step - j) * lo + j * hi ≤ step * max lo hi := calc
    (step - j) * lo + j * hi ≤ (step - j) * max lo hi + j * max lo hi := Int.add_le_add
      (Int.mul_le_mul_of_nonneg_left (le_max_left lo hi) rest)
      (Int.mul_le_mul_of_nonneg_left (le_max_right lo hi) start)
    _ = step * max lo hi := by ring
  have half : |step * x - ((step - j) * lo + j * hi)| ≤ step / 2 := by omega
  obtain ⟨below, above⟩ := abs_le.1 half
  constructor
  · by_contra less
    have jump : step * (x + 1) ≤ step * min lo hi :=
      Int.mul_le_mul_of_nonneg_left (by omega) positive.le
    rw [mul_add] at jump
    omega
  · by_contra more
    have jump : step * (max lo hi + 1) ≤ step * x :=
      Int.mul_le_mul_of_nonneg_left (by omega) positive.le
    rw [mul_add] at jump
    omega

/-- At the first of the two there is no way to be off. -/
theorem eq_of_near {step lo hi x : Int} (positive : 0 < step)
    (near : 2 * |step * x - ((step - 0) * lo + 0 * hi)| ≤ step) : x = lo := by
  have level : 2 * |step * x - ((step - 0) * lo + 0 * lo)| ≤ step := by
    rwa [zero_mul] at near ⊢
  obtain ⟨least, greatest⟩ := between_of_near positive (Int.le_refl 0) positive.le level
  rw [min_self] at least
  rw [max_self] at greatest
  exact Int.le_antisymm greatest least

namespace SweepCalibration

variable {α : Type} [Interpolating α] {table : Array Int} {channel : Nat} {a : Int}

theorem offsetIn?_add_turns (turns : Int) :
    offsetIn? α table channel (a + turns * circle) = offsetIn? α table channel a := by
  rw [offsetIn?, offsetIn?, Int.add_mul_emod_self_right]

theorem elevationAt?_add_turns (c : SweepCalibration) (turns : Int) :
    c.elevationAt? channel (a + turns * circle) = c.elevationAt? channel a := by
  rw [elevationAt?, elevationAt?, elevationOffset?, elevationOffset?, offset?, offset?,
    offsetIn?_add_turns]

theorem azimuthAt_of_far {c : SweepCalibration} {field : Nat} {sector : Sector}
    (known : c.fields[field]? = some sector)
    (far : WordRange.int64.contains (a - sector.start) = false) :
    c.azimuthAt channel field a = .error (.azimuthOverflow (a - sector.start)) := by
  simp only [azimuthAt, known, Fault.unless, Option.elim_some, ok_bind, far]
  rfl

theorem azimuthAt_add_turns {c : SweepCalibration} {field : Nat} {sector : Sector}
    (known : c.fields[field]? = some sector) {turns : Int}
    (near : WordRange.int64.contains (a - sector.start) = true)
    (turned : WordRange.int64.contains (a + turns * circle - sector.start) = true) :
    c.azimuthAt channel field (a + turns * circle) = c.azimuthAt channel field a := by
  have way : (a + turns * circle - sector.start) % circle = (a - sector.start) % circle := by
    rw [add_sub_right_comm, Int.add_mul_emod_self_right]
  simp only [azimuthAt, known, azimuthOffset?, offset?, offsetIn?_add_turns, Fault.unless,
    Option.elim_some, ok_bind, near, turned, way, Bool.not_true, Bool.false_eq_true, if_false]

/-- An offset is the value between two entries of the channel, the second one step farther on the
circle than the first. -/
theorem exists_entries (covered : (channel + 1) * offsetsPerChannel ≤ table.size) (a : Int) :
    let i := (a % circle / offsetStep).toNat
    ∃ lo hi, table[channel * offsetsPerChannel + i]? = some lo ∧
      table[channel * offsetsPerChannel + (i + 1) % offsetsPerChannel]? = some hi ∧
      offsetIn? α table channel a =
        some (interpolate α offsetStep lo hi (a % circle - i * offsetStep)) := by
  intro i
  have index : i < offsetsPerChannel := offsetIndex_lt a
  have next : (i + 1) % offsetsPerChannel < offsetsPerChannel := Nat.mod_lt _ (by decide)
  rw [Nat.succ_mul] at covered
  have first : channel * offsetsPerChannel + i < table.size := by omega
  have second : channel * offsetsPerChannel + (i + 1) % offsetsPerChannel < table.size := by omega
  refine ⟨table[_], table[_], Array.getElem?_eq_getElem first, Array.getElem?_eq_getElem second, ?_⟩
  simp only [offsetIn?]
  rw [Array.getElem?_eq_getElem first, Array.getElem?_eq_getElem second]
  rfl

/-- In exact arithmetic an offset is the whole number nearest to the line between two entries of its
channel, each two degrees of the circle from the next, and so it lies between them, and on an entry
where it stands. Whatever the arithmetic, entries of other channels have no influence, nor have full
circles, which therefore change no elevation. They change no azimuth as long as the way from the
start of the field fits 64 bits before and after; where it does not, there is no azimuth. -/
theorem offset_near_line (table : Array Int) (channel : Nat)
    (covered : 180 * (channel + 1) ≤ table.size) (a : Int) :
    let r := a % circle
    let i := (r / 51200).toNat
    let j := r - 51200 * i
    (∃ lo hi offset, table[180 * channel + i]? = some lo ∧
      table[180 * channel + (i + 1) % 180]? = some hi ∧
      offsetIn? Rat table channel a = some offset ∧
      |51200 * offset - ((51200 - j) * lo + j * hi)| ≤ 25600 ∧
      min lo hi ≤ offset ∧ offset ≤ max lo hi ∧ (j = 0 → offset = lo)) ∧
    (∀ (α : Type) [Interpolating α],
      (∀ table' : Array Int,
        (∀ k, 180 * channel ≤ k → k < 180 * (channel + 1) → table'[k]? = table[k]?) →
        offsetIn? α table' channel a = offsetIn? α table channel a) ∧
      ∀ turns, offsetIn? α table channel (a + turns * circle) = offsetIn? α table channel a) ∧
    ∀ (c : SweepCalibration) (turns : Int),
      c.elevationAt? channel (a + turns * circle) = c.elevationAt? channel a ∧
      ∀ field sector, c.fields[field]? = some sector →
        (WordRange.int64.contains (a - sector.start) = true →
          WordRange.int64.contains (a + turns * circle - sector.start) = true →
            c.azimuthAt channel field (a + turns * circle) = c.azimuthAt channel field a) ∧
        (WordRange.int64.contains (a - sector.start) = false →
          c.azimuthAt channel field a = .error (.azimuthOverflow (a - sector.start))) := by
  intro r i j
  have steps : 0 ≤ j ∧ j < 51200 := by
    have circled : 0 ≤ r := Int.emod_nonneg a (by decide)
    omega
  refine ⟨?_, fun α _ => ⟨fun table' same => ?_, offsetIn?_add_turns⟩, fun c turns =>
    ⟨c.elevationAt?_add_turns turns, fun field sector known =>
      ⟨azimuthAt_add_turns known, azimuthAt_of_far known⟩⟩⟩
  · rw [Nat.mul_comm] at covered ⊢
    obtain ⟨lo, hi, first, second, value⟩ := exists_entries (α := Rat) covered a
    have weight : a % circle - (a % circle / offsetStep).toNat * offsetStep = j :=
      congrArg (r - ·) (Int.mul_comm _ _)
    have near : 2 * |51200 * interpolate Rat offsetStep lo hi j - ((51200 - j) * lo + j * hi)|
        ≤ 51200 := interpolate_near (by decide) lo hi j
    rw [weight] at value
    generalize interpolate Rat offsetStep lo hi j = x at value near
    obtain ⟨least, greatest⟩ := between_of_near (by decide) steps.1 steps.2.le near
    refine ⟨lo, hi, x, first, second, value, by omega, least, greatest, fun onEntry => ?_⟩
    rw [onEntry] at near
    exact eq_of_near (by decide) near
  · refine offsetIn?_congr (fun k front back => ?_) a
    rw [Nat.mul_comm] at front back
    exact same k front back

/-- The offsets of two channels, one less from each entry to the next. -/
def falling : Array Int := ((List.range 360).map fun k => 5 - (k : Int)).toArray

/-- One channel and one field that starts 200 steps behind zero; all offsets are zero. -/
def laterField : SweepCalibration where
  major := 1
  minor := 5
  channelNumber := 1
  facetNumber := 3
  frameNumber := 1
  frameConfig := .replicate 8 0
  resolution := 1
  fields := #[⟨200, 300⟩]
  channels := #[⟨30, 10⟩]
  azimuthOffsets := Array.replicate 180 0
  elevationOffsets := Array.replicate 180 0
  digest := .replicate 32 0

/-- Half a step before zero, the last entry of the second channel and its first are equally near.
Three circles change neither the offset there nor an azimuth. -/
theorem offset_near_line_in_falling :
    180 * (1 + 1) ≤ falling.size ∧ (∃ offset, offsetIn? Rat falling 1 (-25600) = some offset ∧
      |51200 * offset - (25600 * -354 + 25600 * -175)| ≤ 25600 ∧ -354 ≤ offset ∧ offset ≤ -175 ∧
      offsetIn? Rat falling 1 (-25600 + 3 * circle) = some offset) ∧
    180 * (0 + 1) ≤ laterField.azimuthOffsets.size ∧
      laterField.azimuthAt 0 0 (-25600 + 3 * circle) = .ok 18380390 := by
  obtain ⟨⟨lo, hi, offset, first, second, value, near, least, greatest, -⟩, unmoved, -⟩ :=
    offset_near_line falling 1 (by decide +kernel) (-25600)
  obtain rfl : -354 = lo := Option.some.inj ((show falling[359]? = some (-354) by
    decide +kernel).symm.trans first)
  obtain rfl : -175 = hi := Option.some.inj ((show falling[180]? = some (-175) by
    decide +kernel).symm.trans second)
  refine ⟨by decide +kernel,
    ⟨offset, value, near, least, greatest, ((unmoved Rat).2 3).trans value⟩, ?_⟩
  have covered : 180 * (0 + 1) ≤ laterField.azimuthOffsets.size := by decide +kernel
  have angle : laterField.azimuthAt 0 0 (-25600) = .ok 18380390 := by decide +kernel
  obtain ⟨-, -, turned⟩ := offset_near_line laterField.azimuthOffsets 0 covered (-25600)
  exact ⟨covered, (((turned laterField 3).2 0 _ rfl).1 rfl rfl).trans angle⟩

example : offsetIn? Rat falling 1 (-25600) = some (-265) := by decide +kernel

/-- From the least azimuth of 64 bits the way to the start of the field does not fit any more; a
circle farther on there is an azimuth. -/
theorem azimuth_lost_at_least_word :
    180 * (0 + 1) ≤ laterField.azimuthOffsets.size ∧
      WordRange.int64.contains (-9223372036854775808) = true ∧
      WordRange.int64.contains (-9223372036854775808 + circle) = true ∧
      laterField.azimuthAt 0 0 (-9223372036854775808 + circle) = .ok 10255974 ∧
      laterField.azimuthAt 0 0 (-9223372036854775808) =
        .error (.azimuthOverflow (-9223372036854776008)) :=
  ⟨by decide +kernel, rfl, rfl, by decide +kernel,
    azimuthAt_of_far (show laterField.fields[0]? = some ⟨200, 300⟩ from rfl) rfl⟩

end SweepCalibration

end Lidar
