import Lidar.Proofs.Bytes
import Lidar.Proofs.Except
import Lidar.Wire.Packet
import Lidar.Wire.Tail

namespace Lidar

namespace Bytes

/-- The `n` bytes of `a` from `i` on are those of `b` from `j` on. -/
def Matches (a b : Bytes) (i j n : Nat) : Prop := ∀ k < n, a[i + k]? = b[j + k]?

instance (a b : Bytes) (i j n : Nat) : Decidable (a.Matches b i j n) :=
  inferInstanceAs (Decidable (∀ k < n, a[i + k]? = b[j + k]?))

namespace Matches

variable {b c : Bytes} {i j n k m : Nat}

theorem start (h : b.Matches c i j n) (inside : m ≤ n) : b.Matches c i j m :=
  fun k hk => h k (Nat.lt_of_lt_of_le hk inside)

theorem part (h : b.Matches c i j n) (inside : k + m ≤ n) : b.Matches c (i + k) (j + k) m := by
  intro l hl
  rw [Nat.add_assoc, Nat.add_assoc, h (k + l) (by omega)]

theorem byte? (h : b.Matches c i j n) (inside : k + 1 ≤ n) : b.byte? (i + k) = c.byte? (j + k) :=
  h k inside

theorem word16? (h : b.Matches c i j n) (inside : k + 2 ≤ n) :
    b.word16? (i + k) = c.word16? (j + k) := by
  simp only [Bytes.word16?, Nat.add_assoc, h k (by omega), h (k + 1) (by omega)]

theorem int16? (h : b.Matches c i j n) (inside : k + 2 ≤ n) :
    b.int16? (i + k) = c.int16? (j + k) := by
  rw [Bytes.int16?, Bytes.int16?, h.word16? inside]

theorem word32? (h : b.Matches c i j n) (inside : k + 4 ≤ n) :
    b.word32? (i + k) = c.word32? (j + k) := by
  simp only [Bytes.word32?, Nat.add_assoc, h k (by omega), h (k + 1) (by omega),
    h (k + 2) (by omega), h (k + 3) (by omega)]

theorem vector? (h : b.Matches c i j n) (positive : 0 < m) (inside : k + m ≤ n) :
    b.vector? (i + k) m = c.vector? (j + k) m := by
  apply Option.ext
  intro v
  rw [vector?_eq_some_iff positive, vector?_eq_some_iff positive]
  refine forall_congr' fun l => forall_congr' fun hl => ?_
  rw [Nat.add_assoc, Nat.add_assoc, h (k + l) (by omega)]

end Matches

end Bytes

/-- The tail is read from its own bytes alone, wherever they stand. -/
def Format.Local {Tail : Type} (f : Format Tail) : Prop :=
  ∀ (b c : Bytes) (i j : Nat), b.Matches c i j f.tailSize → f.readTail? b i = f.readTail? c j

theorem P128.format_local : P128.format.Local := by
  intro b c i j h
  change b.Matches c i j 26 at h
  have first : b.vector? i 3 = c.vector? j 3 := h.vector? (k := 0) (by decide) (by decide)
  simp (disch := decide) only [P128.format, P128.Tail.read?, first, h.byte?, h.word16?, h.word32?,
    h.vector?]

theorem QT128.format_local : QT128.format.Local := by
  intro b c i j h
  change b.Matches c i j 26 at h
  have first : b.vector? i 3 = c.vector? j 3 := h.vector? (k := 0) (by decide) (by decide)
  simp (disch := decide) only [QT128.format, QT128.Tail.read?, first, h.byte?, h.word16?,
    h.word32?, h.vector?]

theorem AT128.format_local : AT128.format.Local := by
  intro b c i j h
  change b.Matches c i j 32 at h
  have first : b.vector? i 3 = c.vector? j 3 := h.vector? (k := 0) (by decide) (by decide)
  simp (disch := decide) only [AT128.format, AT128.Tail.read?, first, h.byte?, h.int16?, h.word32?,
    h.vector?]

/-- Layouts that cut the blocks alike. -/
structure Layout.SameCut (l l' : Layout) : Prop where
  lasers : l.lasers = l'.lasers
  azimuthSize : l.azimuthSize = l'.azimuthSize
  returnSize : l.returnSize = l'.returnSize

theorem Layout.SameCut.blockStart {l l' : Layout} (cut : l.SameCut l') (i : Nat) :
    l.blockStart i = l'.blockStart i := by
  rw [Layout.blockStart, Layout.blockStart, blockSize, blockSize, cut.azimuthSize, cut.lasers,
    cut.returnSize]

namespace Packet

variable {T T' : Type} {p : Packet T} {q : Packet T'} {i i' j : Nat}

theorem return?_of_matches
    (h : p.bytes.Matches q.bytes (p.layout.returnStart i j) (q.layout.returnStart i' j) 3) :
    p.return? i j = q.return? i' j := by
  have distance : p.bytes.word16? (p.layout.returnStart i j) =
      q.bytes.word16? (q.layout.returnStart i' j) := h.word16? (k := 0) (by decide)
  rw [return?, return?, distance, h.byte? (by decide)]

/-- A block is known from its azimuth bytes and the first three bytes of each of its returns. -/
theorem block?_of_matches (fine : p.format.fineAzimuth = q.format.fineAzimuth)
    (lasers : p.layout.lasers = q.layout.lasers)
    (azimuth : p.bytes.Matches q.bytes (p.layout.blockStart i) (q.layout.blockStart i')
      p.layout.azimuthSize)
    (returns : ∀ j < p.layout.lasers,
      p.bytes.Matches q.bytes (p.layout.returnStart i j) (q.layout.returnStart i' j) 3) :
    p.block? i = q.block? i' := by
  have size : p.layout.azimuthSize = if p.format.fineAzimuth then 3 else 2 := rfl
  have coarse : p.bytes.word16? (p.layout.blockStart i) =
      q.bytes.word16? (q.layout.blockStart i') := by
    refine azimuth.word16? (k := 0) ?_
    split at size <;> omega
  have steps : p.fineAzimuth? (p.layout.blockStart i) =
      q.fineAzimuth? (q.layout.blockStart i') := by
    rw [fineAzimuth?, fineAzimuth?, ← fine]
    split
    · rw [if_pos ‹_›] at size
      exact azimuth.byte? (by omega)
    · rfl
  have each : (List.range p.layout.lasers).mapM (p.return? i) =
      (List.range q.layout.lasers).mapM (q.return? i') := by
    rw [← lasers]
    exact mapM_congr fun j hj => return?_of_matches (returns j (List.mem_range.1 hj))
  rw [block?, block?, coarse, steps, each]

/-- Blocks of equal bytes that are cut alike are equal. -/
theorem block?_of_sameCut (lawful : p.format.Lawful)
    (fine : p.format.fineAzimuth = q.format.fineAzimuth) (cut : p.layout.SameCut q.layout)
    (h : p.bytes.Matches q.bytes (p.layout.blockStart i) (q.layout.blockStart i')
      p.layout.blockSize) :
    p.block? i = q.block? i' := by
  refine block?_of_matches fine cut.lasers ?_ ?_
  · exact h.start (Nat.le_add_right _ _)
  · intro j hj
    have wide : 3 ≤ p.layout.returnSize := lawful.returnSize_ge p.header.flags
    have inner := p.layout.returnStart_add_le (i := i) hj
    rw [Layout.blockStart_succ, Layout.returnStart] at inner
    rw [Layout.returnStart, Layout.returnStart, ← cut.azimuthSize, ← cut.returnSize,
      Nat.add_assoc, Nat.add_assoc]
    exact h.part (by omega)

end Packet

end Lidar
