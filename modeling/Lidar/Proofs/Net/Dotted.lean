import Lidar.Net.Address
import Lidar.Proofs.Text.Numerals

namespace Lidar.IPv4

open Text (numeral padded)

variable {s : List Char}

/-- A number of one byte is read from its numeral alone: zeros in front are refused. -/
theorem octet?_eq_some_iff {b : UInt8} : octet? s = some b ↔ s = numeral b.toNat := by
  rw [octet?, Option.ite_none_right_eq_some, Option.map_eq_some_iff]
  constructor
  · rintro ⟨⟨-, plain⟩, n, read, rfl⟩
    obtain ⟨below, zeros, rfl⟩ := Text.digits?_eq_some_iff.1 read
    rw [UInt8.toNat_ofNat_of_lt' below]
    cases zeros with
    | zero => rfl
    | succ zeros =>
      have digits := List.length_pos_iff.2 (Text.numeral_ne_nil n)
      rcases plain with other | short
      · exact absurd rfl other
      · simp [padded] at short
        omega
  · rintro rfl
    have below : b.toNat < 256 := UInt8.toNat_lt b
    have short : (numeral b.toNat).length ≤ 3 :=
      (Nat.length_toDigits_le_iff (by decide) (by decide)).2 (by omega)
    refine ⟨⟨short, ?_⟩, b.toNat, Text.digits?_numeral below, UInt8.ofNat_toNat⟩
    rcases Nat.eq_zero_or_pos b.toNat with zero | positive
    · rw [zero]
      exact .inr rfl
    · exact .inl (Text.head?_numeral positive)

theorem toList_render (ip : IPv4) : ip.render.toList = ['.'].intercalate
    [numeral ip.a.toNat, numeral ip.b.toNat, numeral ip.c.toNat, numeral ip.d.toNat] := by
  simp [render, toString, numeral, List.intercalate_cons_cons]

theorem isDigit_or_dot_of_mem_render {ip : IPv4} {c : Char} (listed : c ∈ ip.render.toList) :
    c.isDigit = true ∨ c = '.' := by
  rw [toList_render] at listed
  simp only [List.intercalate_cons_cons, List.intercalate_singleton, List.mem_append,
    List.mem_singleton, or_assoc] at listed
  rcases listed with digit | dot | digit | dot | digit | dot | digit
  all_goals first
    | exact .inl (Text.isDigit_of_mem_numeral digit)
    | exact .inr dot

theorem read?_eq_some_iff {ip : IPv4} : read? s = some ip ↔ s = ip.render.toList := by
  rw [toList_render]
  constructor
  · intro read
    unfold read? at read
    split at read
    · next a b c d pieces =>
      simp only [Option.pure_def, Option.bind_eq_bind, Option.bind_eq_some_iff, octet?_eq_some_iff,
        Option.some.injEq] at read
      obtain ⟨_, rfl, _, rfl, _, rfl, _, rfl, rfl⟩ := read
      rw [← pieces, List.intercalate_splitOn]
    · cases read
  · rintro rfl
    have whole : ∀ piece ∈ [numeral ip.a.toNat, numeral ip.b.toNat, numeral ip.c.toNat,
        numeral ip.d.toNat], '.' ∉ piece := by
      simp [Text.not_mem_numeral]
    have octet (b : UInt8) : octet? (numeral b.toNat) = some b := octet?_eq_some_iff.2 rfl
    rw [read?, List.splitOn_intercalate '.' whole (List.cons_ne_nil _ _)]
    simp [octet]

end Lidar.IPv4
