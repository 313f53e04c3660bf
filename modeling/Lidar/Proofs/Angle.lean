import Lidar.Point
import Mathlib.Algebra.Order.Group.Unbundled.Int
import Mathlib.Data.Int.ModEq

namespace Lidar

namespace AngleTable

variable {t : AngleTable} {a b s : Int} {w : Nat}

/-- The sines of one turn, entry by entry. -/
def sines (t : AngleTable) : Array Float32 := .ofFn fun i => (t.entryAngle i).sin.toFloat32

/-- The cosines of one turn, entry by entry. -/
def cosines (t : AngleTable) : Array Float32 := .ofFn fun i => (t.entryAngle i).cos.toFloat32

/-- Entry `w` of the tables is that of angle `a`. -/
structure IsEntry (t : AngleTable) (a : Int) (w : Nat) : Prop where
  lt : w < 360 * t.unitsPerDegree
  congr : w ≡ a [ZMOD 360 * t.unitsPerDegree]

/-- Angle `s` is angle `a`, at most half a turn to either side; half a turn itself is positive. -/
structure IsSigned (t : AngleTable) (a s : Int) : Prop where
  lt : -(180 * t.unitsPerDegree) < s
  le : s ≤ 180 * t.unitsPerDegree
  congr : s ≡ a [ZMOD 360 * t.unitsPerDegree]

theorem size_eq (t : AngleTable) : (t.size : Int) = 360 * t.unitsPerDegree :=
  Int.natCast_mul 360 t.unitsPerDegree

theorem wrap_congr (same : a ≡ b [ZMOD 360 * t.unitsPerDegree]) : t.wrap a = t.wrap b := by
  rw [wrap, wrap, size_eq]
  exact same

theorem index_congr (same : a ≡ b [ZMOD 360 * t.unitsPerDegree]) : t.index a = t.index b :=
  Fin.ext (congrArg Int.toNat (wrap_congr same))

theorem wrap_modEq (t : AngleTable) (a : Int) : t.wrap a ≡ a [ZMOD 360 * t.unitsPerDegree] := by
  rw [wrap, size_eq]
  exact Int.mod_modEq a _

theorem wrapSigned_modEq (t : AngleTable) (a : Int) :
    t.wrapSigned a ≡ a [ZMOD 360 * t.unitsPerDegree] := by
  rw [Int.ModEq, ← size_eq]
  exact t.wrapSigned_emod a

theorem isEntry_iff : t.IsEntry a w ↔ t.wrap a = w := by
  have size := t.size_eq
  constructor
  · rintro ⟨inside, same⟩
    have below : (w : Int) < t.size := by omega
    rw [← wrap_congr same]
    exact Int.emod_eq_of_lt (Int.natCast_nonneg w) below
  · intro wrapped
    have below := t.wrap_lt a
    refine ⟨by omega, ?_⟩
    rw [← wrapped]
    exact t.wrap_modEq a

theorem isSigned_wrapSigned (t : AngleTable) (a : Int) : t.IsSigned a (t.wrapSigned a) := by
  have size := t.size_eq
  have above := t.lt_wrapSigned a
  have below := t.wrapSigned_le a
  exact ⟨by omega, by omega, t.wrapSigned_modEq a⟩

/-- Two such angles are less than a turn apart, so they are equal. -/
theorem IsSigned.eq {r : Int} (h : t.IsSigned a r) (h' : t.IsSigned a s) : r = s := by
  obtain ⟨above, below, same⟩ := h
  obtain ⟨above', below', same'⟩ := h'
  have apart : |r - s| < 360 * t.unitsPerDegree := abs_lt.2 ⟨by omega, by omega⟩
  have turns : (360 * t.unitsPerDegree : Int) ∣ r - s := (same'.trans same.symm).dvd
  exact Int.sub_eq_zero.1 (Int.eq_zero_of_abs_lt_dvd turns apart)

theorem isSigned_iff : t.IsSigned a s ↔ t.wrapSigned a = s := by
  constructor
  · exact (t.isSigned_wrapSigned a).eq
  · rintro rfl
    exact t.isSigned_wrapSigned a

/-- Half a turn to either side is the same angle, and counts as positive. -/
example : milliDegree.wrapSigned 180000 = 180000 ∧ milliDegree.wrapSigned (-180000) = 180000 ∧
    milliDegree.wrapSigned 180001 = -179999 := by decide

theorem existsUnique_isEntry (t : AngleTable) (a : Int) : ∃! w, t.IsEntry a w := by
  have wrapped : t.wrap a = (t.wrap a).toNat := (Int.toNat_of_nonneg (t.wrap_nonneg a)).symm
  refine ⟨(t.wrap a).toNat, isEntry_iff.2 wrapped, ?_⟩
  intro w h
  rw [isEntry_iff.1 h, Int.toNat_natCast]

theorem existsUnique_isSigned (t : AngleTable) (a : Int) : ∃! s, t.IsSigned a s :=
  ⟨t.wrapSigned a, t.isSigned_wrapSigned a, fun _ h => (isSigned_iff.1 h).symm⟩

namespace IsEntry

variable (h : t.IsEntry a w)

include h

theorem val_index : (t.index a).val = w := by
  change (t.wrap a).toNat = w
  rw [isEntry_iff.1 h, Int.toNat_natCast]

theorem getElem?_sines : t.sines[w]? = some (t.sin a) := by
  rw [← h.val_index, sines, Array.getElem?_ofFn, dif_pos (t.index a).isLt]
  rfl

theorem getElem?_cosines : t.cosines[w]? = some (t.cos a) := by
  rw [← h.val_index, cosines, Array.getElem?_ofFn, dif_pos (t.index a).isLt]
  rfl

theorem radians_eq : t.radians a = t.unitsToRadians w := by
  rw [radians, isEntry_iff.1 h]

end IsEntry

theorem IsSigned.signedRadians_eq (h : t.IsSigned a s) :
    t.signedRadians a = t.unitsToRadians s := by
  rw [signedRadians, isSigned_iff.1 h]

end AngleTable

namespace Point

variable {t : AngleTable}

/-- A point is made of four table entries, two of its elevation and two of its azimuth, and of the
angles that their numbers and the signed elevation stand for. -/
theorem ofPolar_of_entries {e a s : Int} {v w : Nat} (elevation : t.IsEntry e v)
    (azimuth : t.IsEntry a w) (signed : t.IsSigned e s) (range intensity : Float32) :
    ∃ sinE cosE sinA cosA, t.sines[v]? = some sinE ∧ t.cosines[v]? = some cosE ∧
      t.sines[w]? = some sinA ∧ t.cosines[w]? = some cosA ∧
      ofPolar t range { elevation := e, azimuth := a } intensity = {
        cartesian := {
          x := range * cosE * sinA
          y := range * cosE * cosA
          z := range * sinE
          intensity }
        spherical := {
          radius := range
          theta := t.unitsToRadians w
          phi := t.unitsToRadians s
          intensity } } := by
  refine ⟨t.sin e, t.cos e, t.sin a, t.cos a, elevation.getElem?_sines,
    elevation.getElem?_cosines, azimuth.getElem?_sines, azimuth.getElem?_cosines, ?_⟩
  rw [ofPolar, azimuth.radians_eq, signed.signedRadians_eq]

/-- Angles that differ by whole turns have the same entries, so they make the same point. -/
theorem ofPolar_congr {e e' a a' : Int} (elevation : e ≡ e' [ZMOD 360 * t.unitsPerDegree])
    (azimuth : a ≡ a' [ZMOD 360 * t.unitsPerDegree]) (range intensity : Float32) :
    ofPolar t range { elevation := e, azimuth := a } intensity =
      ofPolar t range { elevation := e', azimuth := a' } intensity := by
  simp only [ofPolar, AngleTable.sin, AngleTable.cos, AngleTable.radians, AngleTable.signedRadians,
    AngleTable.wrapSigned, AngleTable.index_congr elevation, AngleTable.index_congr azimuth,
    AngleTable.wrap_congr elevation, AngleTable.wrap_congr azimuth]

end Point

end Lidar
