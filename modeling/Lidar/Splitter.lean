namespace Lidar

/-- The last block azimuth in hundredths of a degree. Azimuths grow slowly until they fall back to
zero, so a large step ends a frame. Zero stands for none, so a block after an azimuth of zero never
ends one. -/
structure Splitter where
  last : UInt16 := 0
deriving DecidableEq

namespace Splitter

/-- The largest step that still counts as scan advance. -/
def tolerance : Nat := 1000

/-- Whether a step from the stored azimuth to this one ends a frame. -/
def crosses (s : Splitter) (azimuth : UInt16) : Bool :=
  s.last ≠ 0 ∧ tolerance < ((azimuth.toNat : Int) - s.last.toNat).natAbs

/-- The step to a block: whether it ends a frame, and the splitter after it. -/
def update (s : Splitter) (azimuth : UInt16) : Bool × Splitter :=
  (s.crosses azimuth, { last := azimuth })

/-- The steps to several blocks in turn: whether any of them ends a frame. -/
def feed (s : Splitter) : List UInt16 → Bool × Splitter
  | [] => (false, s)
  | a :: rest =>
    let (crossed, s₁) := s.update a
    let (later, s₂) := s₁.feed rest
    (crossed || later, s₂)

theorem feed_append (s : Splitter) (as bs : List UInt16) :
    s.feed (as ++ bs) =
      ((s.feed as).1 || ((s.feed as).2.feed bs).1, ((s.feed as).2.feed bs).2) := by
  induction as generalizing s with
  | nil => simp [feed]
  | cons a as ih => simp [feed, ih, Bool.or_assoc]

theorem feed_last (s : Splitter) (as : List UInt16) :
    (s.feed as).2 = { last := as.getLast?.getD s.last } := by
  induction as generalizing s with
  | nil => rfl
  | cons a as ih => simp [feed, update, ih, List.getLast?_cons]

def start : Splitter := {}

end Splitter

end Lidar
