import Lidar.Bytes

namespace Lidar

namespace Bytes

def ofBigEndian16 (w : UInt16) : Bytes := #[(w >>> 8).toUInt8, w.toUInt8]

def ofWord16 (w : UInt16) : Bytes := #[w.toUInt8, (w >>> 8).toUInt8]

def ofWord32 (w : UInt32) : Bytes :=
  #[w.toUInt8, (w >>> 8).toUInt8, (w >>> 16).toUInt8, (w >>> 24).toUInt8]

@[simp] theorem size_ofBigEndian16 (w : UInt16) : (ofBigEndian16 w).size = 2 := rfl

@[simp] theorem size_ofWord16 (w : UInt16) : (ofWord16 w).size = 2 := rfl

@[simp] theorem size_ofWord32 (w : UInt32) : (ofWord32 w).size = 4 := rfl

theorem vector?_eq_some_iff {b : Bytes} {i n : Nat} {v : Vector UInt8 n} (positive : 0 < n) :
    b.vector? i n = some v ↔ ∀ k (h : k < n), b[i + k]? = some v[k] := by
  constructor
  · intro read k hk
    unfold vector? at read
    split at read
    · obtain rfl := Option.some.inj read
      simp only [Vector.getElem_mk, Array.getElem_extract]
      exact Array.getElem?_eq_getElem _
    · cases read
  · intro each
    have last := each (n - 1) (by omega)
    have inside : i + n ≤ b.size := by
      obtain ⟨inside, -⟩ := Array.getElem?_eq_some_iff.1 last
      omega
    rw [vector?, dif_pos inside]
    congr 1
    apply Vector.ext
    intro k hk
    simp only [Vector.getElem_mk, Array.getElem_extract]
    exact Option.some.inj ((Array.getElem?_eq_getElem _).symm.trans (each k hk))

theorem word16_bytes (w : UInt16) : word16 w.toUInt8 (w >>> 8).toUInt8 = w := by
  have bound := w.toNat_lt
  apply UInt16.toNat_inj.1
  simp only [word16_toNat, UInt16.toNat_toUInt8, UInt16.toNat_shiftRight, Nat.shiftRight_eq_div_pow]
  have shift : UInt16.toNat 8 % 16 = 8 := rfl
  rw [shift]
  omega

theorem word32_bytes (w : UInt32) :
    word32 w.toUInt8 (w >>> 8).toUInt8 (w >>> 16).toUInt8 (w >>> 24).toUInt8 = w := by
  have bound := w.toNat_lt
  apply UInt32.toNat_inj.1
  simp only [word32_toNat, UInt32.toNat_toUInt8, UInt32.toNat_shiftRight, Nat.shiftRight_eq_div_pow]
  have shifts : UInt32.toNat 8 % 32 = 8 ∧ UInt32.toNat 16 % 32 = 16 ∧ UInt32.toNat 24 % 32 = 24 :=
    ⟨rfl, rfl, rfl⟩
  rw [shifts.1, shifts.2.1, shifts.2.2]
  omega

/-- The bytes `s` stand in `b` from `i` on. -/
def Holds (b : Bytes) (i : Nat) (s : Bytes) : Prop := ∀ k < s.size, b[i + k]? = s[k]?

variable {b s t : Bytes} {i : Nat}

theorem holds_self (b : Bytes) : b.Holds 0 b := by
  intro k _
  rw [Nat.zero_add]

theorem holds_append : b.Holds i (s ++ t) ↔ b.Holds i s ∧ b.Holds (i + s.size) t := by
  constructor
  · intro h
    refine ⟨fun k hk => ?_, fun k hk => ?_⟩
    · have whole := h k (by rw [Array.size_append]; omega)
      rwa [Array.getElem?_append_left hk] at whole
    · have whole := h (s.size + k) (by rw [Array.size_append]; omega)
      rwa [Array.getElem?_append_right (Nat.le_add_right _ _), Nat.add_sub_cancel_left,
        ← Nat.add_assoc] at whole
  · intro ⟨front, back⟩ k hk
    rw [Array.size_append] at hk
    rcases Nat.lt_or_ge k s.size with inside | behind
    · rw [Array.getElem?_append_left inside]
      exact front k inside
    · rw [Array.getElem?_append_right behind, ← back (k - s.size) (by omega)]
      congr 1
      omega

theorem Holds.size_le (h : b.Holds i s) (hs : 0 < s.size) : i + s.size ≤ b.size := by
  have last := h (s.size - 1) (by omega)
  rw [Array.getElem?_eq_getElem (show s.size - 1 < s.size by omega)] at last
  obtain ⟨inside, -⟩ := Array.getElem?_eq_some_iff.1 last
  omega

theorem Holds.extract (h : b.Holds i s) : b.extract i (i + s.size) = s := by
  apply Array.ext_getElem?
  intro k
  rw [Array.getElem?_extract]
  rcases Nat.lt_or_ge k s.size with inside | behind
  · have fits := h.size_le (by omega)
    rw [if_pos (by omega), h k inside]
  · rw [if_neg (by omega), Array.getElem?_eq_none behind]

theorem Holds.byte? {x : UInt8} (h : b.Holds i #[x]) : b[i]? = some x := h 0 Nat.one_pos

theorem Holds.bigEndian16? {w : UInt16} (h : b.Holds i (ofBigEndian16 w)) :
    b.bigEndian16? i = some w := by
  have hi : b[i]? = some (w >>> 8).toUInt8 := h 0 (by simp)
  have lo : b[i + 1]? = some w.toUInt8 := h 1 (by simp)
  rw [Bytes.bigEndian16?, hi, lo]
  exact congrArg some (word16_bytes w)

theorem Holds.word16? {w : UInt16} (h : b.Holds i (ofWord16 w)) : b.word16? i = some w := by
  have lo : b[i]? = some w.toUInt8 := h 0 (by simp)
  have hi : b[i + 1]? = some (w >>> 8).toUInt8 := h 1 (by simp)
  rw [Bytes.word16?, lo, hi]
  exact congrArg some (word16_bytes w)

theorem Holds.word32? {w : UInt32} (h : b.Holds i (ofWord32 w)) : b.word32? i = some w := by
  have first : b[i]? = some w.toUInt8 := h 0 (by simp)
  have second : b[i + 1]? = some (w >>> 8).toUInt8 := h 1 (by simp)
  have third : b[i + 2]? = some (w >>> 16).toUInt8 := h 2 (by simp)
  have fourth : b[i + 3]? = some (w >>> 24).toUInt8 := h 3 (by simp)
  rw [Bytes.word32?, first, second, third, fourth]
  exact congrArg some (word32_bytes w)

theorem Holds.int16? {x : Int16} (h : b.Holds i (ofWord16 x.toUInt16)) : b.int16? i = some x := by
  rw [Bytes.int16?, h.word16?, Option.map_some, Int16.toInt16_toUInt16]

theorem Holds.vector? {n : Nat} {v : Vector UInt8 n} (h : b.Holds i v.toArray) (positive : 0 < n) :
    b.vector? i n = some v := by
  rw [vector?_eq_some_iff positive]
  intro k hk
  rw [h k (by rw [Vector.size_toArray]; exact hk)]
  simp [hk]

end Bytes

end Lidar
