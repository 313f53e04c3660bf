namespace Lidar

/-- A byte string with constant-time access. -/
abbrev Bytes := Array UInt8

/-- Two bytes as a word, the low byte first. -/
def word16 (lo hi : UInt8) : UInt16 :=
  UInt16.ofNat (lo.toNat + 256 * hi.toNat)

/-- Four bytes as a word, the lowest first. -/
def word32 (a b c d : UInt8) : UInt32 :=
  UInt32.ofNat (a.toNat + 256 * b.toNat + 65536 * c.toNat + 16777216 * d.toNat)

theorem word16_toNat (lo hi : UInt8) : (word16 lo hi).toNat = lo.toNat + 256 * hi.toNat := by
  have := lo.toNat_lt
  have := hi.toNat_lt
  simp only [word16, UInt16.toNat_ofNat']
  omega

theorem word32_toNat (a b c d : UInt8) :
    (word32 a b c d).toNat =
      a.toNat + 256 * b.toNat + 65536 * c.toNat + 16777216 * d.toNat := by
  have := a.toNat_lt
  have := b.toNat_lt
  have := c.toNat_lt
  have := d.toNat_lt
  simp only [word32, UInt32.toNat_ofNat']
  omega

namespace Bytes

def byte? (b : Bytes) (i : Nat) : Option UInt8 := b[i]?

/-- The little-endian 16-bit word at `i`. -/
def word16? (b : Bytes) (i : Nat) : Option UInt16 := do
  let lo ← b[i]?
  let hi ← b[i + 1]?
  return word16 lo hi

/-- The big-endian 16-bit word at `i`. -/
def bigEndian16? (b : Bytes) (i : Nat) : Option UInt16 := do
  let hi ← b[i]?
  let lo ← b[i + 1]?
  return word16 lo hi

/-- The little-endian 32-bit word at `i`. -/
def word32? (b : Bytes) (i : Nat) : Option UInt32 := do
  let p ← b[i]?
  let q ← b[i + 1]?
  let r ← b[i + 2]?
  let s ← b[i + 3]?
  return word32 p q r s

/-- The little-endian 16-bit word at `i`, in two's complement. -/
def int16? (b : Bytes) (i : Nat) : Option Int16 :=
  (b.word16? i).map UInt16.toInt16

/-- The `n` bytes from `i` on, with their number in the type. -/
def vector? (b : Bytes) (i n : Nat) : Option (Vector UInt8 n) :=
  if h : i + n ≤ b.size then
    some ⟨b.extract i (i + n), by rw [Array.size_extract]; omega⟩
  else none

theorem byte?_isSome {b : Bytes} {i : Nat} : (b.byte? i).isSome ↔ i + 1 ≤ b.size := by
  simp only [byte?, isSome_getElem?]
  exact Iff.rfl

theorem word16?_isSome {b : Bytes} {i : Nat} : (b.word16? i).isSome ↔ i + 2 ≤ b.size := by
  by_cases h : i + 2 ≤ b.size
  · simp [word16?, getElem?_pos b i (by omega), getElem?_pos b (i + 1) (by omega), h]
  · have last : b[i + 1]? = none := getElem?_neg b (i + 1) (by omega)
    simp [word16?, last, h]

theorem bigEndian16?_isSome {b : Bytes} {i : Nat} : (b.bigEndian16? i).isSome ↔ i + 2 ≤ b.size := by
  by_cases h : i + 2 ≤ b.size
  · simp [bigEndian16?, getElem?_pos b i (by omega), getElem?_pos b (i + 1) (by omega), h]
  · have last : b[i + 1]? = none := getElem?_neg b (i + 1) (by omega)
    simp [bigEndian16?, last, h]

theorem word32?_isSome {b : Bytes} {i : Nat} : (b.word32? i).isSome ↔ i + 4 ≤ b.size := by
  by_cases h : i + 4 ≤ b.size
  · simp [word32?, getElem?_pos b i (by omega), getElem?_pos b (i + 1) (by omega),
      getElem?_pos b (i + 2) (by omega), getElem?_pos b (i + 3) (by omega), h]
  · have last : b[i + 3]? = none := getElem?_neg b (i + 3) (by omega)
    simp [word32?, last, h]

theorem int16?_isSome {b : Bytes} {i : Nat} : (b.int16? i).isSome ↔ i + 2 ≤ b.size := by
  rw [int16?, Option.isSome_map, word16?_isSome]

theorem vector?_isSome {b : Bytes} {i n : Nat} : (b.vector? i n).isSome ↔ i + n ≤ b.size := by
  by_cases h : i + n ≤ b.size <;> simp [vector?, h]

end Bytes

theorem isSome_bind_iff {α β : Type} {x : Option α} {f : α → Option β} {p q : Prop}
    (hx : x.isSome ↔ p) (hf : ∀ a, (f a).isSome ↔ q) : (x >>= f).isSome ↔ p ∧ q := by
  cases x with
  | none => simpa using fun hp => absurd (hx.2 hp) (by simp)
  | some a => simpa [hf] using fun _ => hx.1 rfl

theorem isSome_last_iff {α β : Type} {x : Option α} {f : α → β} {p : Prop}
    (hx : x.isSome ↔ p) : (x >>= fun a => pure (f a)).isSome ↔ p := by
  cases x <;> simpa using hx

theorem isSome_mapM_iff {α β : Type} {f : α → Option β} {xs : List α} :
    (xs.mapM f).isSome ↔ ∀ x ∈ xs, (f x).isSome := by
  induction xs with
  | nil => simp
  | cons x xs ih => cases hx : f x <;> cases hxs : xs.mapM f <;> simp_all

end Lidar
