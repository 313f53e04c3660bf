import Mathlib
import Lidar.Number.Rounding

namespace Lidar.Binary

open Float.Model Float.Model.UnpackedFloat

def isNegative : Sign → Bool
  | .negative => true
  | .positive => false

/-- What a number stands for that the logical model of `Float` has taken apart. -/
def ofUnpacked : UnpackedFloat → Binary
  | .infinity s => .infinite (isNegative s)
  | .notANumber => .notANumber
  | .zero s => .finite (isNegative s) 0 (-1074)
  | .finite s m e _ => .finite (isNegative s) m e

/-- The parts of a word. -/
def ofParts (negative : Bool) (exponent mantissa : Nat) : Binary :=
  if exponent = 2047 then
    if mantissa = 0 then .infinite negative else .notANumber
  else if exponent = 0 then .finite negative mantissa (-1074)
  else .finite negative (2 ^ 52 + mantissa) (exponent - 1075)

theorem append_one (b : BitVec 52) : (1#1 ++ b).toNat = 2 ^ 52 + b.toNat := by
  rw [BitVec.toNat_append, ← Nat.shiftLeft_add_eq_or_of_lt b.isLt]
  rfl

theorem ofUnpacked_unpack (b : BitVec 64) :
    ofUnpacked (UnpackedFloat.unpack .binary64 b) =
      ofParts (isNegative (.ofBitVec (@unpackSign .binary64 b)))
        (@unpackExponent .binary64 b).toNat (@unpackMantissa .binary64 b).toNat := by
  have ones : @unpackExponent .binary64 b = -1#_ ↔
      (@unpackExponent .binary64 b).toNat = 2047 := by
    rw [← BitVec.toNat_inj]
    rfl
  have none : @unpackExponent .binary64 b = 0#_ ↔ (@unpackExponent .binary64 b).toNat = 0 := by
    rw [← BitVec.toNat_inj]
    rfl
  have empty : @unpackMantissa .binary64 b = 0#_ ↔ (@unpackMantissa .binary64 b).toNat = 0 := by
    rw [← BitVec.toNat_inj]
    rfl
  unfold ofParts UnpackedFloat.unpack
  by_cases special : @unpackExponent .binary64 b = -1#_
  · rw [if_pos (ones.mp special), if_pos special]
    by_cases zero : @unpackMantissa .binary64 b = 0#_
    · rw [if_pos (empty.mp zero), if_pos zero]
      rfl
    · rw [if_neg (empty.not.mp zero), if_neg zero]
      rfl
  rw [if_neg (ones.not.mp special), if_neg special]
  by_cases small : @unpackExponent .binary64 b = 0#_
  · rw [if_pos (none.mp small), if_pos small]
    by_cases zero : @unpackMantissa .binary64 b = 0#_
    · rw [dif_pos zero, empty.mp zero]
      rfl
    · rw [dif_neg zero]
      simp only [ofUnpacked, small]
      rfl
  · rw [if_neg (none.not.mp small), if_neg small]
    exact congrArg (fun m => Binary.finite _ m _) (append_one _)

theorem sign_packComponents (s : Sign) (E : BitVec 11) (M : BitVec 52) :
    Sign.ofBitVec (unpackSign (packComponents .binary64 s E M)) = s := by
  rw [unpackSign, packComponents, BitVec.extractLsb,
    BitVec.extractLsb'_append_eq_of_le (by decide), BitVec.extractLsb'_append_eq_of_le (by decide)]
  cases s <;> rfl

theorem ofUnpacked_packComponents (s : Sign) (E : BitVec 11) (M : BitVec 52) :
    ofUnpacked (UnpackedFloat.unpack .binary64 (packComponents .binary64 s E M)) =
      ofParts (isNegative s) E.toNat M.toNat := by
  rw [ofUnpacked_unpack, sign_packComponents, unpackExponent_packComponents,
    unpackMantissa_packComponents]

/-- How a finite number stands in a word: with all 53 digits of the mantissa, unless its exponent is
the least. -/
structure Canonical (mantissa : Nat) (exponent : Int) : Prop where
  least : -1074 ≤ exponent
  fits : mantissa < 2 ^ 53
  full : 2 ^ 52 ≤ mantissa ∨ exponent = -1074

theorem ofUnpacked_unpack_pack {s : Sign} {m : Nat} {e : Int} (canonical : Canonical m e)
    (pos : 0 < m) :
    ofUnpacked (UnpackedFloat.unpack .binary64 (UnpackedFloat.pack .binary64 (.finite s m e pos))) =
      if e ≤ 971 then .finite (isNegative s) m e else .infinite (isNegative s) := by
  obtain ⟨least, fits, full⟩ := canonical
  have biased : (e + Format.binary64.exponentBias + (52 : Nat)).toNat = (e + 1075).toNat := by
    show (e + 1023 + 52).toNat = _
    congr 1
    omega
  have digits : m.log2 + 1 = Format.binary64.mantissaBits ↔ 2 ^ 52 ≤ m := by
    show m.log2 + 1 = 53 ↔ _
    rw [← Nat.le_log2 (by omega)]
    have := (Nat.log2_lt (by omega)).mpr fits
    omega
  unfold UnpackedFloat.pack
  simp only [biased]
  by_cases above : 2 ^ 11 ≤ (e + 1075).toNat + 1
  · rw [if_pos above, if_neg (by omega), packedInfinity, ofUnpacked_packComponents]
    rfl
  rw [if_neg above, if_pos (by omega : e ≤ 971)]
  by_cases normal : m.log2 + 1 = Format.binary64.mantissaBits
  · have large := digits.mp normal
    rw [if_pos normal, ofUnpacked_packComponents, BitVec.toNat_ofNat, BitVec.toNat_ofNat, ofParts]
    rw [if_neg (by omega), if_neg (by omega)]
    congr 1 <;> omega
  · have small := digits.not.mp normal
    have lowest : e = -1074 := full.resolve_left small
    have whole : (BitVec.ofNat 52 m).toNat = m := Nat.mod_eq_of_lt (by omega)
    rw [if_neg normal, ofUnpacked_packComponents]
    rw [whole, lowest]
    rfl

theorem ofBits_eq_ofParts (bits : Nat) :
    ofBits 11 52 bits =
      ofParts ((bits >>> 63) % 2 = 1) ((bits >>> 52) % 2 ^ 11) (bits % 2 ^ 52) := by
  rw [ofBits, ofParts]
  simp only [Nat.one_shiftLeft]
  by_cases special : (bits >>> 52) % 2 ^ 11 = 2047
  · rw [if_pos special, if_pos (by omega)]
  rw [if_neg special, if_neg (by omega)]
  by_cases small : (bits >>> 52) % 2 ^ 11 = 0
  · rw [if_pos small, if_pos small]
    rfl
  · rw [if_neg small, if_neg small]
    congr 1
    omega

/-- A number of double precision, taken apart as its logical model does it. -/
theorem ofFloat_eq (x : Float) : ofFloat x = ofUnpacked x.toModel.unpack := by
  have sign (b : BitVec 64) : isNegative (.ofBitVec (@unpackSign .binary64 b)) =
      decide ((b.toNat >>> 63) % 2 = 1) := by
    have bit : (@unpackSign .binary64 b).toNat = (b.toNat >>> 63) % 2 := by
      simp [unpackSign, BitVec.extractLsb_toNat]
    rw [← bit]
    generalize @unpackSign .binary64 b = s
    revert s
    decide
  have exponent (b : BitVec 64) :
      (@unpackExponent .binary64 b).toNat = (b.toNat >>> 52) % 2 ^ 11 := by
    simp [unpackExponent, BitVec.extractLsb_toNat]
  have mantissa (b : BitVec 64) :
      (@unpackMantissa .binary64 b).toNat = b.toNat % 2 ^ 52 := by
    simp [unpackMantissa, BitVec.extractLsb_toNat]
  rw [Float.Model.unpack, ofUnpacked_unpack, sign, exponent, mantissa]
  exact ofBits_eq_ofParts _

theorem canonical_of_ofFloat {x : Float} {n : Bool} {m : Nat} {e : Int}
    (h : ofFloat x = .finite n m e) : Canonical m e ∧ e ≤ 971 := by
  have exponent := Nat.mod_lt (x.toBits.toNat >>> 52) (Nat.two_pow_pos 11)
  have mantissa := Nat.mod_lt x.toBits.toNat (Nat.two_pow_pos 52)
  rw [ofFloat, ofBits_eq_ofParts, ofParts] at h
  split_ifs at h with special empty small
  · cases h
    exact ⟨⟨by omega, by omega, .inr rfl⟩, by omega⟩
  · cases h
    exact ⟨⟨by omega, by omega, .inl (by omega)⟩, by omega⟩

end Lidar.Binary
