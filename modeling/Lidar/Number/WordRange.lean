namespace Lidar

/-- The whole numbers from `least` to `greatest`. -/
structure WordRange where
  least : Int
  greatest : Int
deriving DecidableEq

namespace WordRange

def int32 : WordRange := ⟨-2147483648, 2147483647⟩

def int64 : WordRange := ⟨-9223372036854775808, 9223372036854775807⟩

def uint32 : WordRange := ⟨0, 4294967295⟩

def contains (r : WordRange) (x : Int) : Bool := r.least ≤ x ∧ x ≤ r.greatest

/-- The number of the range that is nearest to `x`. -/
def clamp (r : WordRange) (x : Int) : Int := max r.least (min r.greatest x)

theorem contains_clamp {r : WordRange} (h : r.least ≤ r.greatest) (x : Int) :
    r.contains (r.clamp x) = true := by
  refine decide_eq_true ?_
  simp only [clamp]
  omega

end WordRange

end Lidar
