import Mathlib.Data.List.Forall2
import Mathlib.Tactic.SplitIfs

namespace Lidar

variable {ε α β : Type}

theorem ok_bind (a : α) (f : α → Except ε β) : (Except.ok a >>= f) = f a := rfl

theorem bind_eq_ok_iff {x : Except ε α} {f : α → Except ε β} {b : β} :
    (x >>= f) = .ok b ↔ ∃ a, x = .ok a ∧ f a = .ok b := by
  cases x with
  | error e => simp [bind, Except.bind]
  | ok a => simp [bind, Except.bind]

theorem bind_eq_error_iff {x : Except ε α} {f : α → Except ε β} {e : ε} :
    (x >>= f) = .error e ↔ x = .error e ∨ ∃ a, x = .ok a ∧ f a = .error e := by
  cases x with
  | error e' => simp [bind, Except.bind]
  | ok a => simp [bind, Except.bind]

theorem map_eq_ok_iff {x : Except ε α} {f : α → β} {b : β} :
    x.map f = .ok b ↔ ∃ a, x = .ok a ∧ f a = b := by
  cases x <;> simp [Except.map]

theorem map_eq_error_iff {x : Except ε α} {f : α → β} {e : ε} :
    x.map f = .error e ↔ x = .error e := by
  cases x <;> simp [Except.map]

theorem map_map {γ : Type} (x : Except ε α) (f : α → β) (g : β → γ) :
    (x.map f).map g = x.map (g ∘ f) := by
  cases x <;> rfl

/-- A test that stops the computation was not met. -/
theorem guard_eq_ok_iff {p : Prop} [Decidable p] {e : ε} {f : PUnit → Except ε α}
    {x : Except ε α} {a : α} :
    (if p then throw e >>= f else x) = .ok a ↔ ¬p ∧ x = .ok a := by
  split_ifs with h
  · simp [h, bind, Except.bind, throw, throwThe, MonadExceptOf.throw]
  · simp [h]

/-- The complaint of the first requirement that is not met. -/
def FirstUnmet : List (Prop × ε) → ε → Prop
  | [], _ => False
  | (met, complaint) :: rest, e => (¬met ∧ e = complaint) ∨ (met ∧ FirstUnmet rest e)

theorem exists_firstUnmet_iff {rs : List (Prop × ε)} :
    (∃ e, FirstUnmet rs e) ↔ ¬∀ r ∈ rs, r.1 := by
  induction rs with
  | nil => simp [FirstUnmet]
  | cons r rs ih =>
    obtain ⟨met, complaint⟩ := r
    rw [List.forall_mem_cons, Classical.not_and_iff_not_or_not, ← ih]
    constructor
    · rintro ⟨e, ⟨unmet, -⟩ | ⟨-, behind⟩⟩
      · exact .inl unmet
      · exact .inr ⟨e, behind⟩
    · rintro (unmet | ⟨e, behind⟩)
      · exact ⟨complaint, .inl ⟨unmet, rfl⟩⟩
      · by_cases h : met
        · exact ⟨e, .inr ⟨h, behind⟩⟩
        · exact ⟨complaint, .inl ⟨h, rfl⟩⟩

/-- A test that stops the computation asks for its contrary. -/
theorem guard_eq_error_iff {p met : Prop} [Decidable p] {complaint e : ε} {f : PUnit → Except ε α}
    {x : Except ε α} {rs : List (Prop × ε)} (test : p ↔ ¬met)
    (behind : met → (x = .error e ↔ FirstUnmet rs e)) :
    (if p then throw complaint >>= f else x) = .error e ↔
      FirstUnmet ((met, complaint) :: rs) e := by
  rw [FirstUnmet, ← test]
  split_ifs with h
  · simp [h, test.1 h, bind, Except.bind, throw, throwThe, MonadExceptOf.throw, eq_comm]
  · have passed : met := not_not.1 (mt test.2 h)
    simp [h, passed, behind passed]

theorem mapM_eq_ok_iff {f : α → Except ε β} {xs : List α} {ys : List β} :
    xs.mapM f = .ok ys ↔ List.Forall₂ (fun x y => f x = .ok y) xs ys := by
  induction xs generalizing ys with
  | nil =>
    cases ys with
    | nil => simp [pure, Except.pure]
    | cons y ys => simp [pure, Except.pure]
  | cons x xs ih =>
    rw [List.mapM_cons, bind_eq_ok_iff]
    constructor
    · rintro ⟨y, hy, rest⟩
      obtain ⟨zs, hzs, last⟩ := bind_eq_ok_iff.1 rest
      obtain rfl := Except.ok.inj last
      exact .cons hy (ih.1 hzs)
    · rintro (_ | ⟨hy, rest⟩)
      exact ⟨_, hy, bind_eq_ok_iff.2 ⟨_, ih.2 rest, rfl⟩⟩

/-- A list fails where one of its elements does, and as that element fails. -/
theorem exists_of_mapM_eq_error {f : α → Except ε β} {xs : List α} {e : ε}
    (h : xs.mapM f = .error e) : ∃ x ∈ xs, f x = .error e := by
  induction xs with
  | nil => cases h
  | cons x xs ih =>
    rw [List.mapM_cons] at h
    rcases bind_eq_error_iff.1 h with first | ⟨y, -, behind⟩
    · exact ⟨x, List.mem_cons_self, first⟩
    · rcases bind_eq_error_iff.1 behind with rest | ⟨ys, -, made⟩
      · obtain ⟨z, listed, failed⟩ := ih rest
        exact ⟨z, List.mem_cons_of_mem x listed, failed⟩
      · cases made

/-- A list is read if each of its elements is. -/
theorem mapM_eq_some_iff {f : α → Option β} {xs : List α} {ys : List β} :
    xs.mapM f = some ys ↔ List.Forall₂ (fun x y => f x = some y) xs ys := by
  induction xs generalizing ys with
  | nil =>
    cases ys with
    | nil => simp
    | cons y ys => simp
  | cons x xs ih =>
    rw [List.mapM_cons, Option.bind_eq_bind, Option.bind_eq_some_iff]
    constructor
    · rintro ⟨y, hy, rest⟩
      obtain ⟨zs, hzs, last⟩ := Option.bind_eq_some_iff.1 rest
      obtain rfl := Option.some.inj last
      exact .cons hy (ih.1 hzs)
    · rintro (_ | ⟨hy, rest⟩)
      simp [hy, ih.2 rest]

theorem exists_left_of_mem {R : α → β → Prop} {xs : List α} {ys : List β}
    (related : List.Forall₂ R xs ys) {y : β} (listed : y ∈ ys) : ∃ x ∈ xs, R x y := by
  induction related with
  | nil => cases listed
  | @cons x y' xs ys first _ ih =>
    rcases List.mem_cons.1 listed with rfl | later
    · exact ⟨x, List.mem_cons_self, first⟩
    · obtain ⟨z, found, holds⟩ := ih later
      exact ⟨z, List.mem_cons_of_mem x found, holds⟩

theorem exists_right_of_mem {R : α → β → Prop} {xs : List α} {ys : List β}
    (related : List.Forall₂ R xs ys) {x : α} (listed : x ∈ xs) : ∃ y ∈ ys, R x y :=
  exists_left_of_mem related.flip listed

/-- A list has partners if each of its elements has one. -/
theorem exists_forall₂ {R : α → β → Prop} {xs : List α} (each : ∀ x ∈ xs, ∃ y, R x y) :
    ∃ ys, List.Forall₂ R xs ys := by
  induction xs with
  | nil => exact ⟨[], .nil⟩
  | cons x xs ih =>
    obtain ⟨y, first⟩ := each x List.mem_cons_self
    obtain ⟨ys, rest⟩ := ih fun z listed => each z (List.mem_cons_of_mem x listed)
    exact ⟨y :: ys, .cons first rest⟩

theorem mapM_congr {m : Type → Type} [Monad m] [LawfulMonad m] {f g : α → m β} {xs : List α}
    (h : ∀ x ∈ xs, f x = g x) : xs.mapM f = xs.mapM g := by
  induction xs with
  | nil => rfl
  | cons x xs ih =>
    rw [List.mapM_cons, List.mapM_cons, h x List.mem_cons_self,
      ih fun y hy => h y (List.mem_cons_of_mem x hy)]

theorem mapM_range_eq_some_iff {f : Nat → Option β} {n : Nat} {ys : List β} :
    (List.range n).mapM f = some ys ↔
      ys.length = n ∧ ∀ k (h : k < ys.length), f k = some ys[k] := by
  rw [mapM_eq_some_iff, List.forall₂_iff_get]
  simp only [List.length_range, List.get_eq_getElem, List.getElem_range]
  constructor
  · rintro ⟨rfl, each⟩
    exact ⟨rfl, fun k h => each k h h⟩
  · rintro ⟨rfl, each⟩
    exact ⟨rfl, fun k h _ => each k h⟩

end Lidar
