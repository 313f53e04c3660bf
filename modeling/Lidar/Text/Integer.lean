namespace Lidar.Text

def digit? (c : Char) : Option Nat :=
  if '0' ≤ c ∧ c ≤ '9' then some (c.toNat - '0'.toNat) else none

/-- One more digit of a number that stays below `limit`. -/
def digitBelow? (limit n : Nat) (c : Char) : Option Nat :=
  ((digit? c).map (10 * n + ·)).filter (· < limit)

/-- The value of a digit string that is not empty, if it is below `limit`. A number only grows with
its digits, so one that has reached the limit is not read further. -/
def digits? (limit : Nat) (s : List Char) : Option Nat :=
  if s.isEmpty then none else s.foldlM (digitBelow? limit) 0

theorem digitBelow?_lt {limit n m : Nat} {c : Char} (h : digitBelow? limit n c = some m) :
    m < limit := by
  simp only [digitBelow?, Option.filter_eq_some_iff, decide_eq_true_eq] at h
  exact h.2

theorem foldlM_digitBelow?_lt {limit : Nat} :
    ∀ {s : List Char} {n m : Nat}, n < limit → s.foldlM (digitBelow? limit) n = some m → m < limit
  | [], n, m, hn, h => by
    simp only [List.foldlM_nil, Option.pure_def, Option.some.injEq] at h
    omega
  | c :: s, n, m, _, h => by
    simp only [List.foldlM_cons, Option.bind_eq_bind, Option.bind_eq_some_iff] at h
    obtain ⟨k, hk, h⟩ := h
    exact foldlM_digitBelow?_lt (digitBelow?_lt hk) h

theorem digits?_lt {limit n : Nat} {s : List Char} (h : digits? limit s = some n) : n < limit := by
  cases s with
  | nil => simp [digits?] at h
  | cons c s =>
    simp only [digits?, List.isEmpty_cons, Bool.false_eq_true, if_false, List.foldlM_cons,
      Option.bind_eq_bind, Option.bind_eq_some_iff] at h
    obtain ⟨k, hk, h⟩ := h
    exact foldlM_digitBelow?_lt (digitBelow?_lt hk) h

/-- A number below `limit`; a plus sign may stand in front, a minus sign may not. -/
def natural? (limit : Nat) (s : List Char) : Option Nat :=
  match s with
  | '+' :: r => digits? limit r
  | r => digits? limit r

/-- A number of 64 bits in two's complement, with an optional sign. -/
def integer? (s : List Char) : Option Int :=
  match s with
  | '-' :: r => (digits? 9223372036854775809 r).map fun n => -(n : Int)
  | '+' :: r => (digits? 9223372036854775808 r).map Int.ofNat
  | r => (digits? 9223372036854775808 r).map Int.ofNat

end Lidar.Text
