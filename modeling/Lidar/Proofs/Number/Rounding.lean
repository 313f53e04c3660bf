import Mathlib
import Lidar.Proofs.Number.Packing

namespace Lidar.Binary

open Float.Model Float.Model.UnpackedFloat

/-- The size of a finite number. -/
def magnitude (mantissa : Nat) (exponent : Int) : ℚ := mantissa * 2 ^ exponent

theorem magnitude_zero (e : Int) : magnitude 0 e = 0 := by
  rw [magnitude, Nat.cast_zero, zero_mul]

theorem magnitude_natCast (k : Nat) : magnitude k 0 = k := by
  rw [magnitude, zpow_zero, mul_one]

theorem magnitude_shift (m : Nat) (e : Int) (k : Nat) :
    magnitude (m * 2 ^ k) e = magnitude m (e + k) := by
  rw [magnitude, magnitude, zpow_add₀ two_ne_zero, zpow_natCast]
  push_cast
  ring

theorem magnitude_le_iff {a b : Nat} {e : Int} : magnitude a e ≤ magnitude b e ↔ a ≤ b := by
  rw [magnitude, magnitude, mul_le_mul_iff_left₀ (zpow_pos two_pos e), Nat.cast_le]

/-- The numbers of double precision, but for the bound on their exponent. -/
def Representable (q : ℚ) : Prop :=
  ∃ m : Nat, ∃ e : Int, m < 2 ^ 53 ∧ -1074 ≤ e ∧ magnitude m e = q

/-- Rounding passes no number that can be represented. -/
def Rounds (exact rounded : ℚ) : Prop :=
  ∀ q, Representable q → (exact ≤ q → rounded ≤ q) ∧ (q ≤ exact → q ≤ rounded)

theorem shift_succ (em : ExtendedMantissa) (k : Nat) :
    em >>> (k + 1) = (em >>> k).shiftRightOne := rfl

theorem shift_mantissa (em : ExtendedMantissa) (k : Nat) :
    (em >>> k).mantissa = em.mantissa / 2 ^ k := by
  induction k with
  | zero => exact (Nat.div_one _).symm
  | succ k ih =>
    rw [shift_succ, ExtendedMantissa.shiftRightOne, ih, Nat.div_div_eq_div_mul, pow_succ]

theorem shift_whole (a k : Nat) :
    (⟨a * 2 ^ k, false, false⟩ : ExtendedMantissa) >>> k = ⟨a, false, false⟩ := by
  induction k generalizing a with
  | zero => rw [pow_zero, mul_one]; rfl
  | succ k ih =>
    rw [pow_succ', ← mul_assoc, shift_succ, ih, ExtendedMantissa.shiftRightOne]
    simp

theorem roundedMantissa_bounds (em : ExtendedMantissa) :
    em.mantissa ≤ em.roundedMantissa ∧ em.roundedMantissa ≤ em.mantissa + 1 := by
  obtain ⟨m, half, rest⟩ := em
  cases half <;> cases rest <;>
    simp [ExtendedMantissa.roundedMantissa, ExtendedMantissa.accuracy, Accuracy.roundToNearestEven]
  omega

/-- The mantissa rounded to a multiple of a power of two. -/
def roundedTo (k m : Nat) : Nat :=
  ((⟨m, false, false⟩ : ExtendedMantissa) >>> k).roundedMantissa

theorem roundedTo_bounds (k m : Nat) :
    m / 2 ^ k ≤ roundedTo k m ∧ roundedTo k m ≤ m / 2 ^ k + 1 := by
  have bounds := roundedMantissa_bounds ((⟨m, false, false⟩ : ExtendedMantissa) >>> k)
  rw [shift_mantissa] at bounds
  exact bounds

theorem roundedTo_whole (k a : Nat) : roundedTo k (a * 2 ^ k) = a := by
  rw [roundedTo, shift_whole]
  rfl

theorem le_roundedTo {k m a : Nat} (h : a * 2 ^ k ≤ m) : a ≤ roundedTo k m :=
  ((Nat.le_div_iff_mul_le (Nat.two_pow_pos k)).mpr h).trans (roundedTo_bounds k m).1

theorem roundedTo_le {k m a : Nat} (h : m ≤ a * 2 ^ k) : roundedTo k m ≤ a := by
  rcases h.eq_or_lt with rfl | below
  · exact (roundedTo_whole k a).le
  · have floor : m / 2 ^ k < a := (Nat.div_lt_iff_lt_mul (Nat.two_pow_pos k)).mpr below
    exact (roundedTo_bounds k m).2.trans floor

/-- A mantissa that keeps its leading digits, or an exponent that is the least. -/
theorem rounds_roundedTo {m k : Nat} {e : Int}
    (full : 2 ^ 52 * 2 ^ k ≤ m ∨ e + k = -1074) :
    Rounds (magnitude m e) (magnitude (roundedTo k m) (e + k)) := by
  rintro q ⟨a, j, fits, low, rfl⟩
  rcases le_or_gt (e + k) j with above | below
  · obtain ⟨i, rfl⟩ := Int.le.dest above
    rw [← magnitude_shift, magnitude_le_iff, magnitude_le_iff, ← magnitude_shift,
      magnitude_le_iff, magnitude_le_iff]
    exact ⟨roundedTo_le, le_roundedTo⟩
  · obtain ⟨i, hi⟩ := Int.lt.dest below
    have full := full.resolve_right (by omega)
    have small : a < 2 ^ 52 * 2 ^ (i + 1) := by
      have one := Nat.one_le_two_pow (n := i)
      rw [pow_succ 2 i]
      omega
    have between : magnitude a j < magnitude (2 ^ 52) (e + k) := by
      rw [← hi, ← magnitude_shift, ← not_le, magnitude_le_iff, not_le]
      exact small
    constructor
    · intro under
      rw [← magnitude_le_iff (e := e), magnitude_shift] at full
      exact absurd (full.trans under) (not_le.mpr between)
    · intro _
      exact between.le.trans (magnitude_le_iff.mpr (le_roundedTo full))

theorem targetExponent_eq (m : Nat) (e : Int) :
    Format.binary64.targetExponent (totalExponent m e) = max (m.log2 + e - 52) (-1074) := by
  have least : Format.binary64.minExponent = -1074 := rfl
  have digits : (Format.binary64.mantissaBits : Int) = 53 := rfl
  rw [Format.targetExponent, totalExponent, least, digits]
  omega

theorem shiftToTargetExponent_eq {m k : Nat} {e : Int}
    (amount : (max (m.log2 + e - 52) (-1074) - e).toNat = k) :
    shiftToTargetExponent .binary64 m e .exact =
      ((⟨m, false, false⟩ : ExtendedMantissa) >>> k, e + k) := by
  rw [shiftToTargetExponent, targetExponent_eq, shiftToExponent, amount]
  rfl

theorem log2_le_of_lt {m n : Nat} (h : m < 2 ^ (n + 1)) : m.log2 ≤ n := by
  by_cases zero : m = 0
  · rw [zero]
    exact Nat.zero_le n
  · exact Nat.lt_succ_iff.mp ((Nat.log2_lt zero).mpr h)

theorem roundedTo_le_top {m k : Nat} (h : m.log2 ≤ 52 + k) : roundedTo k m ≤ 2 ^ 53 := by
  apply roundedTo_le
  rw [← pow_add]
  exact Nat.lt_log2_self.le.trans (Nat.pow_le_pow_right (by decide) (by omega))

theorem canonical_zero : Canonical 0 (-1074) :=
  ⟨le_rfl, by decide, .inr rfl⟩

/-- The number with a mantissa that has no further digits. -/
def ofShifted (s : Sign) (shifted : ExtendedMantissa × Int) : UnpackedFloat :=
  if h : shifted.1.mantissa = 0 then .zero s
  else .finite s shifted.1.mantissa shifted.2 (Nat.pos_of_ne_zero h)

theorem ofUnpacked_ofShifted (s : Sign) (m : Nat) {j : Int} (canonical : Canonical m j) :
    ∃ j', ofUnpacked (ofShifted s (⟨m, false, false⟩, j)) = .finite (isNegative s) m j' ∧
      Canonical m j' ∧ magnitude m j' = magnitude m j := by
  rw [ofShifted]
  by_cases zero : m = 0
  · subst zero
    refine ⟨-1074, rfl, canonical_zero, ?_⟩
    rw [magnitude_zero, magnitude_zero]
  · rw [dif_neg zero]
    exact ⟨j, rfl, canonical, rfl⟩

/-- The result of rounding, from the mantissa rounded to the target exponent. A mantissa that grows
to a further digit is shifted once more. -/
theorem roundWithAccuracy_eq (s : Sign) {m k : Nat} {e : Int}
    (target : max (m.log2 + e - 52) (-1074) = e + k)
    (full : 2 ^ 52 * 2 ^ k ≤ m ∨ e + k = -1074) :
    ∃ r j, ofUnpacked (roundWithAccuracy .binary64 s m e .exact) = .finite (isNegative s) r j ∧
      Canonical r j ∧ magnitude r j = magnitude (roundedTo k m) (e + k) := by
  have top : roundedTo k m ≤ 2 ^ 53 := roundedTo_le_top (by omega)
  have kept : 2 ^ 52 ≤ roundedTo k m ∨ e + k = -1074 := full.imp_left le_roundedTo
  have finished : roundWithAccuracy .binary64 s m e .exact =
      ofShifted s (shiftToTargetExponent .binary64 (roundedTo k m) (e + k) .exact) := by
    rw [roundWithAccuracy, shiftToTargetExponent_eq (k := k) (by omega)]
    rfl
  rw [finished]
  rcases top.lt_or_eq with below | grown
  · have digits : (roundedTo k m).log2 ≤ 52 := log2_le_of_lt below
    rw [shiftToTargetExponent_eq (k := 0) (by omega), Nat.cast_zero, add_zero]
    obtain ⟨j, taken, canonical, size⟩ := ofUnpacked_ofShifted s (roundedTo k m) (j := e + k)
      ⟨by omega, below, kept⟩
    exact ⟨_, j, taken, canonical, size⟩
  · have next : (max (((2 ^ 53 : Nat).log2 : Int) + (e + k) - 52) (-1074) - (e + k)).toNat = 1 := by
      rw [Nat.log2_two_pow]
      omega
    rw [grown, shiftToTargetExponent_eq next]
    have half : (⟨2 ^ 53, false, false⟩ : ExtendedMantissa) >>> 1 = ⟨2 ^ 52, false, false⟩ :=
      shift_whole (2 ^ 52) 1
    refine ⟨2 ^ 52, e + k + 1, by rw [half]; rfl, ⟨by omega, by decide, .inl le_rfl⟩, ?_⟩
    exact (magnitude_shift (2 ^ 52) (e + k) 1).symm

theorem log2_ge_of_le {m n : Nat} (h : 2 ^ n ≤ m) : n ≤ m.log2 :=
  (Nat.le_log2 (Nat.ne_of_gt (Nat.lt_of_lt_of_le (Nat.two_pow_pos n) h))).mpr h

theorem exists_rounded (s : Sign) {m : Nat} {e : Int} (wide : 2 ^ 52 ≤ m) :
    ∃ r j, ofUnpacked (roundWithAccuracy .binary64 s m e .exact) = .finite (isNegative s) r j ∧
      Canonical r j ∧ Rounds (magnitude m e) (magnitude r j) := by
  have digits := log2_ge_of_le wide
  obtain ⟨k, target⟩ : ∃ k : Nat, max (m.log2 + e - 52) (-1074) = e + k := by
    exact ⟨(max (m.log2 + e - 52) (-1074) - e).toNat, by omega⟩
  have full : 2 ^ 52 * 2 ^ k ≤ m ∨ e + k = -1074 := by
    by_cases least : e + k = -1074
    · exact .inr least
    · left
      rw [← pow_add]
      have kept : 52 + k = m.log2 := by omega
      rw [kept]
      exact Nat.log2_self_le (by omega)
  obtain ⟨r, j, rounded, canonical, size⟩ := roundWithAccuracy_eq s target full
  refine ⟨r, j, rounded, canonical, ?_⟩
  rw [size]
  exact rounds_roundedTo full

/-- What a number becomes that is put into a word. -/
def repacked (u : UnpackedFloat) : Binary :=
  ofUnpacked (UnpackedFloat.unpack .binary64 (UnpackedFloat.pack .binary64 u))

theorem ofFloat_mul_eq (x y : Float) :
    ofFloat (x * y) = repacked (.mul .binary64 x.toModel.unpack y.toModel.unpack) :=
  ofFloat_eq _

theorem ofFloat_neg_eq (x : Float) : ofFloat (-x) = repacked x.toModel.unpack.neg :=
  ofFloat_eq _

theorem repacked_zero (s : Sign) : repacked (.zero s) = .finite (isNegative s) 0 (-1074) :=
  ofUnpacked_packComponents s 0 0

theorem repacked_infinity (s : Sign) : repacked (.infinity s) = .infinite (isNegative s) :=
  ofUnpacked_packComponents s (-1#_) 0

theorem repacked_notANumber : repacked .notANumber = .notANumber := by
  decide

theorem repacked_of_finite {u : UnpackedFloat} {n : Bool} {m : Nat} {e : Int}
    (h : ofUnpacked u = .finite n m e) (canonical : Canonical m e) :
    repacked u = if e ≤ 971 then .finite n m e else .infinite n := by
  cases u with
  | infinity s => cases h
  | notANumber => cases h
  | zero s =>
    cases h
    exact repacked_zero s
  | finite s m e pos =>
    cases h
    exact ofUnpacked_unpack_pack canonical pos

theorem isNegative_mul (s t : Sign) : isNegative (s * t) = (isNegative s ^^ isNegative t) := by
  cases s <;> cases t <;> rfl

theorem isNegative_neg (s : Sign) : isNegative (-s) = !isNegative s := by
  cases s <;> rfl

theorem repacked_mul_zero {u : UnpackedFloat} {n : Bool} {m : Nat} {e : Int}
    (hu : ofUnpacked u = .finite n m e) (t : Sign) :
    repacked (.mul .binary64 u (.zero t)) = .finite (n ^^ isNegative t) 0 (-1074) := by
  cases u with
  | infinity s | notANumber => cases hu
  | zero s | finite s m e pos =>
    cases hu
    rw [← isNegative_mul]
    exact repacked_zero (s * t)

theorem magnitude_mul (m m' : Nat) (e e' : Int) :
    magnitude m e * magnitude m' e' = magnitude (m * m') (e + e') := by
  rw [magnitude, magnitude, magnitude, zpow_add₀ two_ne_zero]
  push_cast
  ring

theorem rounds_self (q : ℚ) : Rounds q q := fun _ _ => ⟨id, id⟩

variable {x y : Float} {n n' : Bool} {m m' : Nat} {e e' : Int}

/-- The product with zero or a number that has all its digits. -/
theorem ofFloat_mul (hx : ofFloat x = .finite n m e) (hy : ofFloat y = .finite n' m' e')
    (wide : m' = 0 ∨ 2 ^ 52 ≤ m') :
    ∃ r j, Canonical r j ∧ Rounds (magnitude m e * magnitude m' e') (magnitude r j) ∧
      ofFloat (x * y) = if j ≤ 971 then .finite (n ^^ n') r j else .infinite (n ^^ n') := by
  rw [ofFloat_eq] at hx hy
  rw [ofFloat_mul_eq, magnitude_mul]
  cases hv : y.toModel.unpack with
  | infinity t => cases hv ▸ hy
  | notANumber => cases hv ▸ hy
  | zero t =>
    rw [hv] at hy
    cases hy
    refine ⟨0, -1074, canonical_zero, ?_, repacked_mul_zero hx t⟩
    rw [mul_zero, magnitude_zero, magnitude_zero]
    exact rounds_self 0
  | finite t m' e' pos' =>
    rw [hv] at hy
    cases hy
    have wide := wide.resolve_left pos'.ne'
    cases hu : x.toModel.unpack with
    | infinity s => cases hu ▸ hx
    | notANumber => cases hu ▸ hx
    | zero s =>
      rw [hu] at hx
      cases hx
      refine ⟨0, -1074, canonical_zero, ?_, ?_⟩
      · rw [zero_mul, magnitude_zero, magnitude_zero]
        exact rounds_self 0
      · rw [← isNegative_mul]
        exact repacked_zero (s * t)
    | finite s m e pos =>
      rw [hu] at hx
      cases hx
      obtain ⟨r, j, rounded, canonical, rounds⟩ := exists_rounded (s * t) (e := e + e')
        (wide.trans (Nat.le_mul_of_pos_left m' pos))
      refine ⟨r, j, canonical, rounds, ?_⟩
      rw [← isNegative_mul]
      exact repacked_of_finite rounded canonical

theorem ofFloat_neg (hx : ofFloat x = .finite n m e) : ofFloat (-x) = .finite (!n) m e := by
  obtain ⟨canonical, low⟩ := canonical_of_ofFloat hx
  rw [ofFloat_eq] at hx
  rw [ofFloat_neg_eq]
  have negated : ofUnpacked x.toModel.unpack.neg = .finite (!n) m e := by
    cases hu : x.toModel.unpack with
    | infinity s => cases hu ▸ hx
    | notANumber => cases hu ▸ hx
    | zero s =>
      rw [hu] at hx
      cases hx
      exact congrArg (finite · 0 _) (isNegative_neg s)
    | finite s m e pos =>
      rw [hu] at hx
      cases hx
      exact congrArg (finite · m e) (isNegative_neg s)
  rw [repacked_of_finite negated canonical, if_pos low]

/-- The least size beyond double precision. -/
def overflow : ℚ := magnitude (2 ^ 52) 972

theorem Canonical.exponent_le (canonical : Canonical m e) (small : magnitude m e < overflow) :
    e ≤ 971 := by
  by_contra large
  obtain ⟨k, rfl⟩ := Int.le.dest (show (972 : Int) ≤ e by omega)
  have digits := canonical.full.resolve_right (by omega)
  rw [overflow, ← magnitude_shift, ← not_le, magnitude_le_iff] at small
  exact small (digits.trans (Nat.le_mul_of_pos_right m (Nat.two_pow_pos k)))

theorem Rounds.eq {q r : ℚ} (rounds : Rounds q r) (exact : Representable q) : r = q :=
  le_antisymm ((rounds q exact).1 le_rfl) ((rounds q exact).2 le_rfl)

/-- A product that can be represented is exact. -/
theorem ofFloat_mul_exact (hx : ofFloat x = .finite n m e) (hy : ofFloat y = .finite n' m' e')
    (wide : m' = 0 ∨ 2 ^ 52 ≤ m') (exact : Representable (magnitude m e * magnitude m' e'))
    (small : magnitude m e * magnitude m' e' < overflow) :
    ∃ r j, Canonical r j ∧ magnitude r j = magnitude m e * magnitude m' e' ∧
      ofFloat (x * y) = .finite (n ^^ n') r j := by
  obtain ⟨r, j, canonical, rounds, product⟩ := ofFloat_mul hx hy wide
  have same := rounds.eq exact
  have low := canonical.exponent_le (by rwa [same])
  exact ⟨r, j, canonical, same, by rw [product, if_pos low]⟩

theorem representable_magnitude (fits : m < 2 ^ 53) (least : -1074 ≤ e) :
    Representable (magnitude m e) :=
  ⟨m, e, fits, least, rfl⟩

theorem representable_natCast {k : Nat} (h : k < 2 ^ 53) : Representable k :=
  ⟨k, 0, h, by decide, magnitude_natCast k⟩

theorem magnitude_lt_overflow (fits : m < 2 ^ 53) (low : e ≤ 971) :
    magnitude m e < overflow := by
  obtain ⟨k, hk⟩ := Int.lt.dest (show e < 972 by omega)
  rw [overflow, ← hk, ← magnitude_shift, ← not_le, magnitude_le_iff, not_le]
  have two : 2 ^ 1 ≤ 2 ^ (k + 1) := Nat.pow_le_pow_right two_pos (by omega)
  omega

theorem repacked_ofNat {k : Nat} (h : k < 2 ^ 53) :
    ∃ r j, Canonical r j ∧ magnitude r j = k ∧
      repacked (.ofNat .binary64 k) = .finite false r j := by
  rcases Nat.eq_zero_or_pos k with rfl | pos
  · exact ⟨0, -1074, canonical_zero, magnitude_zero _, repacked_zero .positive⟩
  · have digits := log2_le_of_lt h
    have greater : compare (k : Int) 0 = .gt := compare_gt_iff_gt.mpr (by omega)
    rw [UnpackedFloat.ofNat, UnpackedFloat.ofInt, UnpackedFloat.normalize, greater]
    have amount : (0 - max ((k.log2 : Int) + 0 - 52) (-1074)).toNat = 52 - k.log2 := by omega
    simp only [Int.toNat_natCast, UnpackedFloat.round, targetExponent_eq, decreaseExponent, amount,
      Nat.shiftLeft_eq]
    have wide : 2 ^ 52 ≤ k * 2 ^ (52 - k.log2) := by
      calc 2 ^ 52 = 2 ^ k.log2 * 2 ^ (52 - k.log2) := by rw [← pow_add]; congr 1; omega
        _ ≤ k * 2 ^ (52 - k.log2) := Nat.mul_le_mul_right _ (Nat.log2_self_le (by omega))
    obtain ⟨r, j, rounded, canonical, rounds⟩ := exists_rounded .positive wide
    have size : magnitude (k * 2 ^ (52 - k.log2)) (0 - (52 - k.log2 : Nat)) = k := by
      rw [magnitude_shift, sub_add_cancel, magnitude_natCast]
    have same := rounds.eq (size ▸ representable_natCast h)
    rw [size] at same
    have small : (k : ℚ) < overflow := by
      rw [← magnitude_natCast]
      exact magnitude_lt_overflow h (by decide)
    have low := canonical.exponent_le (same ▸ small)
    exact ⟨r, j, canonical, same, by rw [repacked_of_finite rounded canonical, if_pos low]; rfl⟩

end Lidar.Binary
