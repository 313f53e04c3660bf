import Lidar.Number.Rounding

namespace Lidar

def pi : Float := 3.141592653589793

def pi32 : Float32 := 3.1415927

/-- Degrees to radians in double precision, by one multiplication. -/
def toRadians (degrees : Float) : Float := degrees * (pi / 180.0)

/-- Degrees to radians in single precision, by one multiplication. -/
def toRadians32 (degrees : Float32) : Float32 := degrees * (pi32 / 180.0)

/-- One angle resolution. The table holds at least one entry, so every angle has an index. -/
structure AngleTable where
  unitsPerDegree : Nat
  positive : 0 < unitsPerDegree

namespace AngleTable

/-- A table of the given resolution; there is none without units. -/
def ofUnits? (unitsPerDegree : Nat) : Option AngleTable :=
  if h : 0 < unitsPerDegree then some ⟨unitsPerDegree, h⟩ else none

/-- Thousandths of a degree. -/
def milliDegree : AngleTable := ⟨1000, by decide⟩

/-- Hundredths of a degree in 256 steps each. -/
def fineDegree : AngleTable := ⟨25600, by decide⟩

variable (t : AngleTable)

def size : Nat := 360 * t.unitsPerDegree

theorem size_pos : 0 < t.size := Nat.mul_pos (by decide) t.positive

/-- The angle reduced to one turn from zero on. -/
def wrap (angle : Int) : Int := angle % t.size

theorem wrap_nonneg (angle : Int) : 0 ≤ t.wrap angle := by
  have := t.size_pos
  exact Int.emod_nonneg _ (by omega)

theorem wrap_lt (angle : Int) : t.wrap angle < t.size := by
  have := t.size_pos
  exact Int.emod_lt_of_pos _ (by omega)

/-- The angle reduced to half a turn on either side of zero; the half turn itself is positive. -/
def wrapSigned (angle : Int) : Int :=
  let a := t.wrap angle
  if a > t.size / 2 then a - t.size else a

theorem lt_wrapSigned (angle : Int) : -(t.size : Int) < 2 * t.wrapSigned angle := by
  have := t.wrap_nonneg angle
  have := t.size_pos
  simp only [wrapSigned]
  split <;> omega

theorem wrapSigned_le (angle : Int) : 2 * t.wrapSigned angle ≤ t.size := by
  have := t.wrap_lt angle
  simp only [wrapSigned]
  split <;> omega

theorem wrapSigned_emod (angle : Int) : t.wrapSigned angle % t.size = t.wrap angle := by
  have wrapped : t.wrap angle % t.size = t.wrap angle := Int.emod_emod_of_dvd angle (Int.dvd_refl _)
  simp only [wrapSigned]
  split
  · rw [Int.sub_emod_right, wrapped]
  · exact wrapped

def index (angle : Int) : Fin t.size :=
  ⟨(t.wrap angle).toNat, by
    have := t.wrap_nonneg angle
    have := t.wrap_lt angle
    omega⟩

def entryAngle (i : Fin t.size) : Float :=
  Float.ofNat i * (2.0 * pi / Float.ofNat t.size)

def sin (angle : Int) : Float32 := (t.entryAngle (t.index angle)).sin.toFloat32

def cos (angle : Int) : Float32 := (t.entryAngle (t.index angle)).cos.toFloat32

def unitsToRadians (units : Int) : Float32 :=
  (Float.ofInt units * 2.0 * pi / Float.ofNat t.size).toFloat32

/-- The angle in radians, at least zero and less than a full turn. -/
def radians (angle : Int) : Float32 := t.unitsToRadians (t.wrap angle)

/-- The angle in radians, at most half a turn to either side. -/
def signedRadians (angle : Int) : Float32 := t.unitsToRadians (t.wrapSigned angle)

def ofDegrees (degrees : Float) : Int :=
  nearestInt64 (degrees * Float.ofNat t.unitsPerDegree)

def describe : String :=
  s!"TrigTable \x7b units_per_degree: {t.unitsPerDegree}, len: {t.size} \x7d"

end AngleTable

end Lidar
