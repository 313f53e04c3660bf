import Lidar.Number.Rounding

namespace Lidar

/-- Numbers to interpolate with. Floating-point numbers run the computation, rational numbers say
what it approximates. -/
class Interpolating (α : Type) extends Add α, Sub α, Mul α, Div α where
  ofInt : Int → α
  /-- The nearest whole number, a half going away from zero. -/
  nearest : α → Int

instance : Interpolating Float where
  ofInt := Float.ofInt
  nearest := nearestInt64

instance : Interpolating Rat where
  ofInt := Rat.ofInt
  nearest q := q.num.sign * ((2 * q.num.natAbs + q.den) / (2 * q.den) : Nat)

/-- The value at `j` steps of `step` on the line from `lo` to `hi`. -/
def interpolate (α : Type) [Interpolating α] (step lo hi j : Int) : Int :=
  let k : α := Interpolating.ofInt j / Interpolating.ofInt step
  Interpolating.nearest
    ((Interpolating.ofInt 1 - k) * Interpolating.ofInt lo + k * Interpolating.ofInt hi)

end Lidar
