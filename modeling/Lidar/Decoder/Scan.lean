import Lidar.Fault
import Lidar.Point
import Lidar.Splitter
import Lidar.Wire.Layout

namespace Lidar

/-- How the returns of one block are placed. -/
structure Aim where
  /-- The azimuth of the block, in the sensor's units. -/
  azimuth : Int
  /-- The direction of each wire position. -/
  direction : Nat → Except Fault Direction

/-- The least and the greatest of some angles. -/
structure Bounds where
  least : Int
  greatest : Int
deriving DecidableEq

namespace Bounds

def insert (x : Int) : Option Bounds → Bounds
  | none => ⟨x, x⟩
  | some b => ⟨min x b.least, max x b.greatest⟩

def ofList : List Int → Option Bounds
  | [] => none
  | x :: xs => some (insert x (ofList xs))

theorem ofList_eq_none {xs : List Int} : ofList xs = none ↔ xs = [] := by
  cases xs <;> simp [ofList]

theorem le_of_ofList {xs : List Int} {b : Bounds} (h : ofList xs = some b) :
    ∀ x ∈ xs, b.least ≤ x ∧ x ≤ b.greatest := by
  induction xs generalizing b with
  | nil => simp
  | cons x xs ih =>
    cases hxs : ofList xs with
    | none =>
      obtain rfl := ofList_eq_none.1 hxs
      simp only [ofList, insert, Option.some.injEq] at h
      subst h
      simp
    | some c =>
      simp only [ofList, hxs, insert, Option.some.injEq] at h
      subst h
      intro y hy
      rcases List.mem_cons.1 hy with rfl | hy
      · dsimp only
        omega
      · have := ih hxs y hy
        dsimp only
        omega

theorem mem_of_ofList {xs : List Int} {b : Bounds} (h : ofList xs = some b) :
    b.least ∈ xs ∧ b.greatest ∈ xs := by
  induction xs generalizing b with
  | nil => simp [ofList] at h
  | cons x xs ih =>
    cases hxs : ofList xs with
    | none =>
      simp only [ofList, hxs, insert, Option.some.injEq] at h
      subst h
      simp
    | some c =>
      obtain ⟨least, greatest⟩ := ih hxs
      simp only [ofList, hxs, insert, Option.some.injEq] at h
      subst h
      constructor
      · by_cases hx : x ≤ c.least
        · simp [Int.min_eq_left hx]
        · simp [Int.min_eq_right (Int.le_of_not_le hx), least]
      · by_cases hx : c.greatest ≤ x
        · simp [Int.max_eq_left hx]
        · simp [Int.max_eq_right (Int.le_of_not_le hx), greatest]

end Bounds

/-- What a walk over blocks gives. -/
structure Scan where
  points : List Point
  complete : Bool
  splitter : Splitter
  azimuths : Option Bounds

def Block.points (angles : AngleTable) (scale : Float32) (direction : Nat → Except Fault Direction)
    (b : Block) : Except Fault (List Point) :=
  b.returns.zipIdx.mapM fun (r, j) => do
    let d ← direction j
    return Point.ofPolar angles (r.distance.toFloat32 * scale) d (intensity r.reflectivity)

/-- The walk over numbered blocks. A block without aim is passed over: it gives no points and
leaves splitter and bounds alone. -/
def Scan.run (angles : AngleTable) (scale : Float32) (aim : Nat → Block → Option Aim) :
    List (Block × Nat) → Splitter → Except Fault Scan
  | [], splitter => .ok { points := [], complete := false, splitter, azimuths := none }
  | (block, i) :: rest, splitter =>
    match aim i block with
    | none => Scan.run angles scale aim rest splitter
    | some a => do
      let points ← block.points angles scale a.direction
      let (crossed, splitter) := splitter.update block.azimuth
      let later ← Scan.run angles scale aim rest splitter
      return {
        points := points ++ later.points
        complete := crossed || later.complete
        splitter := later.splitter
        azimuths := some (Bounds.insert a.azimuth later.azimuths) }

end Lidar
