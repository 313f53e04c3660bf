import Lidar.Proofs.Number.Rounding

namespace Lidar.Binary

open Float.Model Float.Model.UnpackedFloat

/-- The number is not larger than the bound, or none. -/
def Within (bound : ℚ) : Binary → Prop
  | finite _ m e => magnitude m e ≤ bound
  | infinite _ => False
  | notANumber => True

/-- The number has the sign and reaches the bound. -/
def Beyond (negative : Bool) (bound : ℚ) : Binary → Prop
  | finite n m e => n = negative ∧ bound ≤ magnitude m e
  | infinite n => n = negative
  | notANumber => False

variable {x y : Float} {n n' : Bool} {m m' : Nat} {e e' : Int} {q q' : ℚ}

theorem magnitude_nonneg (m : Nat) (e : Int) : 0 ≤ magnitude m e := by
  rw [← magnitude_zero e]
  exact magnitude_le_iff.mpr (Nat.zero_le m)

theorem unpack_of_notANumber (hx : ofFloat x = .notANumber) :
    x.toModel.unpack = .notANumber := by
  rw [ofFloat_eq] at hx
  cases hu : x.toModel.unpack with
  | notANumber => rfl
  | infinity s | zero s | finite s m e pos => cases hu ▸ hx

theorem ofFloat_mul_of_notANumber (hx : ofFloat x = .notANumber) :
    ofFloat (x * y) = .notANumber := by
  rw [ofFloat_mul_eq, unpack_of_notANumber hx]
  exact repacked_notANumber

theorem ofFloat_mul_of_infinite (hx : ofFloat x = .infinite n) (hy : ofFloat y = .finite n' m' e')
    (pos : m' ≠ 0) : ofFloat (x * y) = .infinite (n ^^ n') := by
  rw [ofFloat_eq] at hx hy
  rw [ofFloat_mul_eq]
  cases hv : y.toModel.unpack with
  | infinity t => cases hv ▸ hy
  | notANumber => cases hv ▸ hy
  | zero t =>
    rw [hv] at hy
    cases hy
    exact absurd rfl pos
  | finite t m' e' pos' =>
    rw [hv] at hy
    cases hy
    cases hu : x.toModel.unpack with
    | infinity s =>
      rw [hu] at hx
      cases hx
      rw [← isNegative_mul]
      exact repacked_infinity (s * t)
    | notANumber | zero s | finite s m e pos => cases hu ▸ hx

theorem Within.mul (within : Within q (ofFloat x)) (hy : ofFloat y = .finite n' m' e')
    (wide : m' = 0 ∨ 2 ^ 52 ≤ m') (product : q * magnitude m' e' ≤ q')
    (exact : Representable q') (small : q' < overflow) : Within q' (ofFloat (x * y)) := by
  cases hx : ofFloat x with
  | infinite n =>
    rw [hx] at within
    exact within.elim
  | notANumber =>
    rw [ofFloat_mul_of_notANumber hx]
    trivial
  | finite n m e =>
    rw [hx] at within
    obtain ⟨r, j, canonical, rounds, result⟩ := ofFloat_mul hx hy wide
    have below : magnitude r j ≤ q' := (rounds q' exact).1
      ((mul_le_mul_of_nonneg_right within (magnitude_nonneg m' e')).trans product)
    rw [result, if_pos (canonical.exponent_le (below.trans_lt small))]
    exact below

theorem Beyond.mul (beyond : Beyond n q (ofFloat x)) (hy : ofFloat y = .finite false m' e')
    (wide : 2 ^ 52 ≤ m') (product : q' ≤ q * magnitude m' e') (exact : Representable q') :
    Beyond n q' (ofFloat (x * y)) := by
  cases hx : ofFloat x with
  | infinite s =>
    rw [hx] at beyond
    rw [ofFloat_mul_of_infinite hx hy (by omega), Bool.xor_false]
    exact beyond
  | notANumber =>
    rw [hx] at beyond
    exact beyond.elim
  | finite s m e =>
    rw [hx] at beyond
    obtain ⟨sign, size⟩ := beyond
    obtain ⟨r, j, canonical, rounds, result⟩ := ofFloat_mul hx hy (.inr wide)
    have above : q' ≤ magnitude r j := (rounds q' exact).2
      (product.trans (mul_le_mul_of_nonneg_right size (magnitude_nonneg m' e')))
    rw [Bool.xor_false] at result
    rw [result]
    split
    · exact ⟨sign, above⟩
    · exact sign

theorem le_magnitude_negSucc_iff {a m k : Nat} :
    (a : ℚ) ≤ magnitude m (Int.negSucc k) ↔ a * 2 ^ (k + 1) ≤ m := by
  have shifted := magnitude_shift a (Int.negSucc k) (k + 1)
  have zero : Int.negSucc k + ((k + 1 : Nat) : Int) = 0 := by omega
  rw [zero, magnitude_natCast] at shifted
  rw [← shifted, magnitude_le_iff]

theorem magnitude_negSucc_le_iff {a m k : Nat} :
    magnitude m (Int.negSucc k) ≤ a ↔ m ≤ a * 2 ^ (k + 1) := by
  have shifted := magnitude_shift a (Int.negSucc k) (k + 1)
  have zero : Int.negSucc k + ((k + 1 : Nat) : Int) = 0 := by omega
  rw [zero, magnitude_natCast] at shifted
  rw [← shifted, magnitude_le_iff]

theorem magnitude_ofNat (m k : Nat) : magnitude m (Int.ofNat k) = (m <<< k : Nat) := by
  rw [Nat.shiftLeft_eq, magnitude]
  push_cast
  exact congrArg _ (zpow_natCast 2 k)

theorem nearestNat_le {a : Nat} (h : magnitude m e ≤ a) : nearestNat m e ≤ a := by
  cases e with
  | ofNat k =>
    rw [magnitude_ofNat, Nat.cast_le] at h
    exact h
  | negSucc k =>
    rw [magnitude_negSucc_le_iff, pow_succ', ← mul_assoc] at h
    have halves : m >>> k ≤ a * 2 := by
      rw [Nat.shiftRight_eq_div_pow]
      exact Nat.div_le_of_le_mul (h.trans_eq (mul_comm _ _))
    rw [nearestNat]
    omega

theorem le_nearestNat {a : Nat} (h : a ≤ magnitude m e) : a ≤ nearestNat m e := by
  cases e with
  | ofNat k =>
    rw [magnitude_ofNat, Nat.cast_le] at h
    exact h
  | negSucc k =>
    rw [le_magnitude_negSucc_iff, pow_succ', ← mul_assoc] at h
    have halves : a * 2 ≤ m >>> k := by
      rw [Nat.shiftRight_eq_div_pow]
      exact (Nat.le_div_iff_mul_le (Nat.two_pow_pos k)).mpr h
    rw [nearestNat]
    omega

theorem Within.nearest {b : Binary} {a : Nat} (within : Within a b) :
    -(a : Int) ≤ b.nearest .int64 ∧ b.nearest .int64 ≤ a := by
  cases b with
  | infinite n => exact within.elim
  | notANumber =>
    have zero : Binary.nearest .int64 .notANumber = 0 := rfl
    omega
  | finite n m e =>
    have whole := nearestNat_le within
    simp only [Binary.nearest, WordRange.clamp, WordRange.int64]
    split <;> omega

theorem Beyond.nearest {b : Binary} (beyond : Beyond n (2 ^ 63 : Nat) b) :
    b.nearest .int64 = if n then WordRange.int64.least else WordRange.int64.greatest := by
  cases b with
  | infinite s => rw [Binary.nearest, beyond]
  | notANumber => exact beyond.elim
  | finite s m e =>
    obtain ⟨rfl, size⟩ := beyond
    have whole := le_nearestNat size
    simp only [Binary.nearest, WordRange.clamp, WordRange.int64]
    split <;> omega

theorem magnitude_negSucc_lt_one {k : Nat} (fits : m < 2 ^ 53) (deep : 53 ≤ k) :
    magnitude m (Int.negSucc k) < 1 := by
  rw [← Nat.cast_one, ← not_le, le_magnitude_negSucc_iff, not_le, one_mul]
  exact fits.trans_le (Nat.pow_le_pow_right two_pos (by omega))

theorem Canonical.wide (canonical : Canonical m e) (one : 1 ≤ magnitude m e) : 2 ^ 52 ≤ m := by
  rcases canonical.full with wide | least
  · exact wide
  · have small : magnitude m (Int.negSucc 1073) < 1 :=
      magnitude_negSucc_lt_one canonical.fits (by decide)
    rw [least] at one
    exact absurd one small.not_ge

/-- A whole number is zero or has all its digits. -/
theorem Canonical.wide_of_natCast {k : Nat} (canonical : Canonical m e) (size : magnitude m e = k) :
    m = 0 ∨ 2 ^ 52 ≤ m := by
  rcases Nat.eq_zero_or_pos k with rfl | pos
  · left
    rw [Nat.cast_zero, ← magnitude_zero e] at size
    exact Nat.le_zero.mp (magnitude_le_iff.mp size.le)
  · right
    exact canonical.wide (by rw [size]; exact_mod_cast pos)

theorem ofFloat_toFloat (w : UInt16) :
    ∃ r j, Canonical r j ∧ magnitude r j = w.toNat ∧ ofFloat w.toFloat = .finite false r j := by
  obtain ⟨r, j, canonical, size, taken⟩ := repacked_ofNat (k := w.toNat)
    (w.toNat_lt.trans (by decide))
  exact ⟨r, j, canonical, size, (ofFloat_eq _).trans taken⟩

theorem ofFloat_ofNat {k : Nat} (h : k < 2 ^ 53) :
    ∃ r j, Canonical r j ∧ magnitude r j = k ∧ ofFloat (Float.ofNat k) = .finite false r j := by
  have word : k.toUInt64.toNat = k := Nat.mod_eq_of_lt (h.trans (by decide))
  obtain ⟨r, j, canonical, size, taken⟩ := repacked_ofNat h
  have repack : ofFloat k.toUInt64.toFloat = repacked (.ofNat .binary64 k.toUInt64.toNat) :=
    ofFloat_eq _
  have converted : ofFloat k.toUInt64.toFloat = .finite false r j := by
    rw [repack, word, taken]
  have unit : ofFloat (Float.ofBits 0x3FF0000000000000) = .finite false (2 ^ 52) (-52) := by
    decide +kernel
  have one : magnitude (2 ^ 52) (-52) = 1 := by
    rw [magnitude]
    norm_num
  have kept : magnitude r j * magnitude (2 ^ 52) (-52) = k := by rw [one, mul_one, size]
  have small : (k : ℚ) < overflow := by
    rw [← magnitude_natCast]
    exact magnitude_lt_overflow h (by decide)
  obtain ⟨r', j', canonical', size', product⟩ := ofFloat_mul_exact converted unit (.inr le_rfl)
    (kept ▸ representable_natCast h) (kept ▸ small)
  have split : Float.ofNat k = k.toUInt64.toFloat * Float.ofBits 0x3FF0000000000000 := by
    rw [Float.ofNat]
    change Float.ofScientific k false 0 = _
    rw [Float.ofScientific, dif_pos ⟨h, by decide⟩]
    rfl
  exact ⟨r', j', canonical', size'.trans kept, by rw [split, product]; rfl⟩

theorem ofFloat_twoPower (low : -149 ≤ e) (high : e ≤ 104) :
    ofFloat (twoPower e) = .finite false (2 ^ 52) (e - 52) := by
  have all : ∀ i : Fin 254,
      ofFloat (twoPower (i.val - 149)) = .finite false (2 ^ 52) ((i.val - 149 : Int) - 52) := by
    decide +kernel
  obtain ⟨i, rfl⟩ : ∃ i : Nat, e = i - 149 := ⟨(e + 149).toNat, by omega⟩
  exact all ⟨i, by omega⟩

theorem bounds_of_ofFloat32 {t : Float32} (h : ofFloat32 t = .finite n m e) :
    m < 2 ^ 24 ∧ -149 ≤ e ∧ e ≤ 104 := by
  have exponent := Nat.mod_lt (t.toBits.toNat >>> 23) (Nat.two_pow_pos 8)
  have mantissa := Nat.mod_lt t.toBits.toNat (Nat.two_pow_pos 23)
  rw [ofFloat32, ofBits] at h
  simp only [Nat.one_shiftLeft] at h
  split_ifs at h with special empty small
  · cases h
    exact ⟨by omega, by omega, by omega⟩
  · cases h
    exact ⟨by omega, by omega, by omega⟩

theorem widen_of_finite {t : Float32} (h : ofFloat32 t = .finite n m e) :
    ∃ r j, magnitude r j = magnitude m e ∧ ofFloat (widen t) = .finite n r j := by
  obtain ⟨fits, low, high⟩ := bounds_of_ofFloat32 h
  obtain ⟨r, j, -, size, whole⟩ := ofFloat_ofNat (k := m) (fits.trans (by decide))
  have unit : magnitude (2 ^ 52) (e - 52) = 2 ^ e := by
    have shifted := magnitude_shift 1 (e - 52) 52
    rw [one_mul, Nat.cast_ofNat, sub_add_cancel] at shifted
    rw [shifted, magnitude, Nat.cast_one, one_mul]
  have scaled : magnitude r j * magnitude (2 ^ 52) (e - 52) = magnitude m e := by
    rw [size, unit, magnitude]
  have exact : Representable (magnitude m e) := ⟨m, e, by omega, by omega, rfl⟩
  have small : magnitude m e < overflow := magnitude_lt_overflow (by omega) (by omega)
  obtain ⟨r', j', -, size', product⟩ := ofFloat_mul_exact whole (ofFloat_twoPower low high)
    (.inr le_rfl) (scaled ▸ exact) (scaled ▸ small)
  refine ⟨r', j', size'.trans scaled, ?_⟩
  rw [widen, h]
  cases n with
  | false => exact product
  | true => exact ofFloat_neg product

theorem widen_of_infinite {t : Float32} (h : ofFloat32 t = .infinite n) :
    ofFloat (widen t) = .infinite n := by
  rw [widen, h]
  cases n <;> decide +kernel

theorem widen_of_notANumber {t : Float32} (h : ofFloat32 t = .notANumber) :
    ofFloat (widen t) = .notANumber := by
  rw [widen, h]
  decide +kernel

theorem Within.widen {t : Float32} (within : Within q (ofFloat32 t)) :
    Within q (ofFloat (widen t)) := by
  cases h : ofFloat32 t with
  | infinite n =>
    rw [h] at within
    exact within.elim
  | notANumber =>
    rw [widen_of_notANumber h]
    trivial
  | finite n m e =>
    rw [h] at within
    obtain ⟨r, j, same, wide⟩ := widen_of_finite h
    rw [wide]
    exact same.trans_le within

theorem Beyond.widen {t : Float32} (beyond : Beyond n q (ofFloat32 t)) :
    Beyond n q (ofFloat (widen t)) := by
  cases h : ofFloat32 t with
  | infinite s =>
    rw [h] at beyond
    rw [widen_of_infinite h]
    exact beyond
  | notANumber =>
    rw [h] at beyond
    exact beyond.elim
  | finite s m e =>
    rw [h] at beyond
    obtain ⟨r, j, same, wide⟩ := widen_of_finite h
    rw [wide]
    exact ⟨beyond.1, beyond.2.trans_eq same.symm⟩

end Lidar.Binary
