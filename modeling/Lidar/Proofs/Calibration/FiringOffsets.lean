import Lidar.Calibration.FireTimes
import Lidar.Proofs.Number.Bounds

namespace Lidar.FireTimes

open Binary

/-- In microseconds. -/
def longestTime : ℚ := 23456605257334784

/-- The time is one whose offset stays away from the ends of 64 bits. -/
def IsShort (time : Float32) : Prop :=
  Within longestTime (ofFloat32 time)

/-- In thousandths of a degree. -/
def farthestOffset : Nat := 9223372034000000000

variable {f : FireTimes} {loop channel : Nat} {time : Float32}

theorem longestTime_eq : longestTime = magnitude 10922833 31 := by
  rw [longestTime, magnitude]
  norm_num

/-- The next number of single precision. -/
theorem exists_beyond (long : ¬IsShort time) :
    ∃ negative, Beyond negative (magnitude 10922834 31) (ofFloat32 time) := by
  rw [IsShort] at long
  cases h : ofFloat32 time with
  | notANumber =>
    rw [h] at long
    exact absurd trivial long
  | infinite n => exact ⟨n, rfl⟩
  | finite n m e =>
    obtain ⟨fits, low, high⟩ := bounds_of_ofFloat32 h
    rw [h] at long
    change ¬magnitude m e ≤ longestTime at long
    rw [longestTime_eq] at long
    refine ⟨n, rfl, ?_⟩
    rcases le_or_gt 31 e with large | small
    · obtain ⟨k, rfl⟩ := Int.le.dest large
      rw [← magnitude_shift, magnitude_le_iff] at long ⊢
      omega
    · obtain ⟨k, hk⟩ := Int.lt.dest small
      rw [← hk, ← magnitude_shift, magnitude_le_iff] at long
      have two : 2 ^ 1 ≤ 2 ^ (k + 1) := Nat.pow_le_pow_right two_pos (by omega)
      omega

theorem ofFloat_degreesPerMicrosecond :
    ofFloat degreesPerMicrosecond = .finite false 7083549724304468 (-70) := by
  decide +kernel

theorem ofFloat_thousand : ofFloat 1000.0 = .finite false (1000 * 2 ^ 43) (-43) := by
  decide +kernel

theorem magnitude_thousand : magnitude (1000 * 2 ^ 43) (-43) = 1000 := by
  rw [magnitude]
  norm_num

/-- The bound grows by the greatest speed, the degrees and the thousandths, and each time it is
rounded up a little. -/
theorem azimuthOffset_within (short : IsShort (f.get loop channel)) (rpm : UInt16) :
    -(farthestOffset : Int) ≤ f.azimuthOffset loop channel rpm ∧
      f.azimuthOffset loop channel rpm ≤ farthestOffset := by
  obtain ⟨r, j, canonical, size, speed⟩ := ofFloat_toFloat rpm
  have turned : Within (magnitude (10922833 * 65535) 31)
      (ofFloat (widen (f.get loop channel) * rpm.toFloat)) := by
    refine short.widen.mul speed (canonical.wide_of_natCast size) ?_
      (representable_magnitude (by decide) (by decide))
      (magnitude_lt_overflow (by decide) (by decide))
    have fastest : (rpm.toNat : ℚ) ≤ 65535 := by exact_mod_cast Nat.le_of_lt_succ rpm.toNat_lt
    rw [size, longestTime, magnitude]
    norm_num
    linarith
  have degrees : Within (magnitude 72057594015625 7)
      (ofFloat (widen (f.get loop channel) * rpm.toFloat * degreesPerMicrosecond)) := by
    refine turned.mul ofFloat_degreesPerMicrosecond (.inr (by decide)) ?_
      (representable_magnitude (by decide) (by decide))
      (magnitude_lt_overflow (by decide) (by decide))
    rw [magnitude, magnitude, magnitude]
    norm_num
  have offset : Within (magnitude 9007199251953125 10) (ofFloat
      (widen (f.get loop channel) * rpm.toFloat * degreesPerMicrosecond * 1000.0)) := by
    refine degrees.mul ofFloat_thousand (.inr (by decide)) ?_
      (representable_magnitude (by decide) (by decide))
      (magnitude_lt_overflow (by decide) (by decide))
    rw [magnitude_thousand, magnitude, magnitude]
    norm_num
  have bound : magnitude 9007199251953125 10 = farthestOffset := by
    rw [magnitude, farthestOffset]
    norm_num
  rw [bound] at offset
  exact offset.nearest

/-- At the greatest speed, a time that is not short is taken to an end of 64 bits. -/
theorem azimuthOffset_of_long (long : ¬IsShort (f.get loop channel)) :
    f.azimuthOffset loop channel 65535 = WordRange.int64.least ∨
      f.azimuthOffset loop channel 65535 = WordRange.int64.greatest := by
  obtain ⟨negative, beyond⟩ := exists_beyond long
  obtain ⟨r, j, canonical, size, speed⟩ := ofFloat_toFloat 65535
  have wide : 2 ^ 52 ≤ r := canonical.wide (by rw [size]; decide +kernel)
  have turned : Beyond negative (magnitude (10922834 * 65535) 31)
      (ofFloat (widen (f.get loop channel) * (65535 : UInt16).toFloat)) := by
    refine beyond.widen.mul speed wide ?_ (representable_magnitude (by decide) (by decide))
    have fastest : (65535 : UInt16).toNat = 65535 := rfl
    rw [size, fastest, magnitude, magnitude]
    norm_num
  have degrees : Beyond negative (magnitude 1152921504606847 3) (ofFloat
      (widen (f.get loop channel) * (65535 : UInt16).toFloat * degreesPerMicrosecond)) := by
    refine turned.mul ofFloat_degreesPerMicrosecond (by decide) ?_
      (representable_magnitude (by decide) (by decide))
    rw [magnitude, magnitude, magnitude]
    norm_num
  have offset : Beyond negative (magnitude 1 63)
      (ofFloat (widen (f.get loop channel) * (65535 : UInt16).toFloat * degreesPerMicrosecond *
        1000.0)) := by
    refine degrees.mul ofFloat_thousand (by decide) ?_
      (representable_magnitude (by decide) (by decide))
    rw [magnitude_thousand, magnitude, magnitude]
    norm_num
  have bound : magnitude 1 63 = (2 ^ 63 : Nat) := by
    rw [magnitude]
    norm_num
  rw [bound] at offset
  have reached : f.azimuthOffset loop channel 65535 = _ := offset.nearest
  rw [reached]
  cases negative
  · exact .inr rfl
  · exact .inl rfl

end Lidar.FireTimes
