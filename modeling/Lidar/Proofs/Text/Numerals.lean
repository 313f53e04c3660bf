import Lidar.Proofs.Text.Fields
import Lidar.Text.Integer

namespace Lidar.Text

/-- A number in decimal digits. -/
def numeral (n : Nat) : List Char := Nat.toDigits 10 n

variable {limit n m : Nat} {s : List Char} {c : Char}

theorem isDigit_of_mem_numeral (listed : c ∈ numeral n) : c.isDigit = true :=
  Nat.isDigit_of_mem_toDigits (by decide) (by decide) listed

theorem numeral_ne_nil (n : Nat) : numeral n ≠ [] := Nat.toDigits_ne_nil

theorem digit?_of_isDigit (digit : c.isDigit = true) : digit? c = some (c.toNat - '0'.toNat) := by
  obtain ⟨low, high⟩ := Char.isDigit_iff_toNat.1 digit
  rw [digit?, if_pos ⟨low, high⟩]

theorem not_isBlank_of_isDigit (digit : c.isDigit = true) : isBlank c = false := by
  obtain ⟨low, high⟩ := Char.isDigit_iff_toNat.1 digit
  have bounds : 48 ≤ c.toNat ∧ c.toNat ≤ 57 := ⟨low, high⟩
  rw [isBlank, ← Bool.not_eq_true, List.contains_iff_mem]
  intro listed
  simp only [blanks, List.mem_cons, List.not_mem_nil, or_false] at listed
  omega

theorem le_ofDigitChars (s : List Char) (m : Nat) : m ≤ Nat.ofDigitChars 10 s m := by
  induction s generalizing m with
  | nil => simp
  | cons c s ih =>
    rw [Nat.ofDigitChars_cons]
    exact Nat.le_trans (by omega) (ih _)

/-- Digits are read one by one, and a number never gets smaller with them. -/
theorem foldlM_digitBelow? (digits : ∀ c ∈ s, c.isDigit = true)
    (below : Nat.ofDigitChars 10 s m < limit) :
    s.foldlM (digitBelow? limit) m = some (Nat.ofDigitChars 10 s m) := by
  induction s generalizing m with
  | nil => simp
  | cons c s ih =>
    obtain ⟨first, rest⟩ := List.forall_mem_cons.1 digits
    rw [Nat.ofDigitChars_cons] at below ⊢
    have step : digitBelow? limit m c = some (10 * m + (c.toNat - '0'.toNat)) := by
      have inside := Nat.lt_of_le_of_lt (le_ofDigitChars s _) below
      simpa [digitBelow?, digit?_of_isDigit first] using inside
    rw [List.foldlM_cons, step]
    exact ih rest below

theorem digits?_numeral (below : n < limit) : digits? limit (numeral n) = some n := by
  have value : Nat.ofDigitChars 10 (numeral n) 0 = n := Nat.ofDigitChars_ten_toDigits
  rw [digits?, if_neg (mt List.isEmpty_iff.1 (numeral_ne_nil n))]
  rw [foldlM_digitBelow? (fun _ => isDigit_of_mem_numeral) (by rwa [value]), value]

/-- A numeral starts with no sign. -/
theorem numeral_ne_cons (other : c.isDigit = false) : numeral n ≠ c :: s := by
  intro same
  have digit := isDigit_of_mem_numeral (n := n) (same ▸ List.mem_cons_self)
  rw [other] at digit
  cases digit

theorem natural?_numeral (below : n < limit) : natural? limit (numeral n) = some n := by
  unfold natural?
  split
  · next same => exact absurd same (numeral_ne_cons rfl)
  · exact digits?_numeral below

theorem integer?_numeral (below : n < 9223372036854775808) :
    integer? (numeral n) = some (n : Int) := by
  unfold integer?
  split
  · next same => exact absurd same (numeral_ne_cons rfl)
  · next same => exact absurd same (numeral_ne_cons rfl)
  · rw [digits?_numeral below]
    rfl

theorem not_mem_numeral (other : c.isDigit = false) : c ∉ numeral n := by
  intro listed
  rw [isDigit_of_mem_numeral listed] at other
  cases other

@[simp] theorem trim_numeral (n : Nat) : trim (numeral n) = numeral n :=
  trim_of_not_blank fun _ listed => not_isBlank_of_isDigit (isDigit_of_mem_numeral listed)

theorem digit?_eq_some_iff {d : Nat} : digit? c = some d ↔ d < 10 ∧ c = Nat.digitChar d := by
  constructor
  · intro read
    rw [digit?, Option.ite_none_right_eq_some] at read
    obtain ⟨⟨low, high⟩, value⟩ := read
    have bounds : 48 ≤ c.toNat ∧ c.toNat ≤ 57 := ⟨low, high⟩
    have offset : c.toNat - 48 = d := Option.some.inj value
    have small : d < 10 := by omega
    refine ⟨small, Char.toNat_inj.1 ?_⟩
    rw [Nat.toNat_digitChar_of_lt_ten small]
    omega
  · rintro ⟨small, rfl⟩
    have digit : (Nat.digitChar d).isDigit = true := by
      rw [Nat.isDigit_digitChar, decide_eq_true small]
    rw [digit?_of_isDigit digit, Nat.toNat_digitChar_of_lt_ten small]
    exact congrArg some (Nat.add_sub_cancel_left 48 d)

theorem digitBelow?_eq_some_iff : digitBelow? limit n c = some m ↔
    ∃ d, d < 10 ∧ c = Nat.digitChar d ∧ m = 10 * n + d ∧ m < limit := by
  simp only [digitBelow?, Option.filter_eq_some_iff, Option.map_eq_some_iff, digit?_eq_some_iff,
    decide_eq_true_eq]
  constructor
  · rintro ⟨⟨d, ⟨small, digit⟩, rfl⟩, below⟩
    exact ⟨d, small, digit, rfl, below⟩
  · rintro ⟨d, small, digit, rfl, below⟩
    exact ⟨⟨d, ⟨small, digit⟩, rfl⟩, below⟩

/-- Behind a number other than zero the digits go on with its numeral. -/
theorem numeral_append_of_foldlM (positive : 0 < m)
    (read : s.foldlM (digitBelow? limit) m = some n) :
    numeral m ++ s = numeral n := by
  induction s generalizing m with
  | nil => rw [List.append_nil, Option.some.inj read]
  | cons c s ih =>
    obtain ⟨k, first, rest⟩ := Option.bind_eq_some_iff.1 read
    obtain ⟨d, small, rfl, rfl, -⟩ := digitBelow?_eq_some_iff.1 first
    have longer : numeral m ++ [Nat.digitChar d] = numeral (10 * m + d) := by
      rw [numeral, numeral, ← Nat.toDigits_append_toDigits (by decide) positive small,
        Nat.toDigits_of_lt_base small]
    rw [List.append_cons, longer]
    exact ih (by omega) rest

/-- Zeros in front of a numeral do not change the number. -/
def padded (zeros n : Nat) : List Char := List.replicate zeros '0' ++ numeral n

theorem isDigit_of_mem_padded {zeros : Nat} (listed : c ∈ padded zeros n) : c.isDigit = true := by
  rcases List.mem_append.1 listed with zero | digit
  · rw [List.eq_of_mem_replicate zero]
    rfl
  · exact isDigit_of_mem_numeral digit

theorem exists_padded_of_foldlM (full : s ≠ []) (read : s.foldlM (digitBelow? limit) 0 = some n) :
    ∃ zeros, s = padded zeros n := by
  induction s with
  | nil => exact absurd rfl full
  | cons c s ih =>
    obtain ⟨k, first, rest⟩ := Option.bind_eq_some_iff.1 read
    obtain ⟨d, small, rfl, rfl, -⟩ := digitBelow?_eq_some_iff.1 first
    rw [Nat.mul_zero, Nat.zero_add] at rest
    have digit : numeral d = [Nat.digitChar d] := Nat.toDigits_of_lt_base small
    rcases Nat.eq_zero_or_pos d with rfl | positive
    · cases s with
      | nil =>
        obtain rfl := Option.some.inj rest
        exact ⟨0, digit.symm⟩
      | cons c' s =>
        obtain ⟨zeros, same⟩ := ih (List.cons_ne_nil c' s) rest
        exact ⟨zeros + 1, by rw [same]; rfl⟩
    · have whole := numeral_append_of_foldlM positive rest
      rw [digit] at whole
      exact ⟨0, whole⟩

theorem digits?_eq_some_iff :
    digits? limit s = some n ↔ n < limit ∧ ∃ zeros, s = padded zeros n := by
  constructor
  · intro read
    have below := digits?_lt read
    rw [digits?, Option.ite_none_left_eq_some, List.isEmpty_iff] at read
    exact ⟨below, exists_padded_of_foldlM read.1 read.2⟩
  · rintro ⟨below, zeros, rfl⟩
    have value : Nat.ofDigitChars 10 (padded zeros n) 0 = n := by
      have front : Nat.ofDigitChars 10 (List.replicate zeros '0') 0 = 0 := by
        induction zeros with
        | zero => rfl
        | succ zeros ih => rwa [List.replicate_succ, Nat.ofDigitChars_cons]
      rw [padded, Nat.ofDigitChars_append, front]
      exact Nat.ofDigitChars_ten_toDigits
    have full : padded zeros n ≠ [] := List.append_ne_nil_of_right_ne_nil _ (numeral_ne_nil n)
    rw [digits?, if_neg (mt List.isEmpty_iff.1 full)]
    rw [foldlM_digitBelow? (fun _ => isDigit_of_mem_padded) (by rwa [value]), value]

/-- A plus sign, or none. -/
def IsSign (sign : List Char) : Prop := sign = [] ∨ sign = ['+']

theorem natural?_eq_some_iff : natural? limit s = some n ↔
    n < limit ∧ ∃ sign zeros, IsSign sign ∧ s = sign ++ padded zeros n := by
  unfold natural?
  split
  · next rest =>
    rw [digits?_eq_some_iff]
    constructor
    · rintro ⟨below, zeros, rfl⟩
      exact ⟨below, ['+'], zeros, .inr rfl, rfl⟩
    · rintro ⟨below, sign, zeros, rfl | rfl, same⟩
      · have digit := isDigit_of_mem_padded (same ▸ List.mem_cons_self)
        cases digit
      · exact ⟨below, zeros, List.tail_eq_of_cons_eq same⟩
  · next unsigned =>
    rw [digits?_eq_some_iff]
    constructor
    · rintro ⟨below, zeros, rfl⟩
      exact ⟨below, [], zeros, .inl rfl, rfl⟩
    · rintro ⟨below, sign, zeros, rfl | rfl, same⟩
      · exact ⟨below, zeros, same⟩
      · exact absurd same (unsigned _)

theorem head?_numeral (positive : 0 < n) : (numeral n).head? ≠ some '0' := by
  induction n using Nat.strongRecOn with
  | ind n ih =>
    by_cases small : n < 10
    · have digit : numeral n = [Nat.digitChar n] := Nat.toDigits_of_lt_base small
      rw [digit, List.head?_cons, ne_eq, Option.some.injEq, ← Char.toNat_inj,
        Nat.toNat_digitChar_of_lt_ten small]
      have zero : '0'.toNat = 48 := rfl
      omega
    · have split : numeral n = numeral (n / 10) ++ [Nat.digitChar (n % 10)] :=
        Nat.toDigits_of_base_le (by decide) (by omega)
      rw [split, List.head?_append_of_ne_nil _ (numeral_ne_nil _)]
      exact ih (n / 10) (by omega) (by omega)

end Lidar.Text
