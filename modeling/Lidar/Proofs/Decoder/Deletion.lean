import Lidar.Proofs.Decoder.Admission
import Lidar.Proofs.Wire.Reading

namespace Lidar

/-- The header of one block less. -/
def Header.fewer (h : Header) : Header := { h with blocks := h.blocks - 1 }

theorem Header.blockCount_fewer {h : Header} (some : 0 < h.blockCount) :
    h.fewer.blockCount + 1 = h.blockCount := by
  have one : (1 : UInt8) ≤ h.blocks := UInt8.le_iff_toNat_le.2 some
  rw [blockCount, fewer, UInt8.toNat_sub_of_le _ _ one]
  exact Nat.sub_add_cancel some

namespace Format

variable {Tail : Type} (f : Format Tail) {h : Header}

theorem sameCut_fewer : (f.layout h.fewer).SameCut (f.layout h) := ⟨rfl, rfl, rfl⟩

/-- Behind the blocks, everything starts earlier by the size of one block. -/
theorem layout_fewer (some : 0 < h.blockCount) :
    (f.layout h).tail = (f.layout h.fewer).tail + (f.layout h).blockSize ∧
      (f.layout h).sequence =
        (f.layout h.fewer).sequence.map (· + (f.layout h).blockSize) ∧
      (f.layout h).imu = (f.layout h.fewer).imu.map (· + (f.layout h).blockSize) ∧
      (f.layout h).size = (f.layout h.fewer).size + (f.layout h).blockSize := by
  have count := Header.blockCount_fewer some
  have lasers : h.fewer.laserCount = h.laserCount := rfl
  have flags : h.fewer.flags = h.flags := rfl
  simp only [layout, Layout.blockSize, lasers, flags, ← count, Nat.succ_mul]
  refine ⟨?_, ?_, ?_, ?_⟩
  · omega
  · split
    · rw [Option.map_some, Option.some.injEq]
      omega
    · rfl
  · split
    · rw [Option.map_some, Option.some.injEq]
      omega
    · rfl
  · omega

end Format

namespace Packet

variable {Tail : Type} {p q : Packet Tail} {i : Nat}

/-- One packet is the other without its block `i`. -/
structure Without (q p : Packet Tail) (i : Nat) : Prop where
  format : q.format = p.format
  header : q.header = p.header.fewer
  inside : i < p.header.blockCount
  size : q.bytes.size + p.layout.blockSize = p.bytes.size
  front : ∀ k, Header.size ≤ k → k < p.layout.blockStart i → q.bytes[k]? = p.bytes[k]?
  behind : ∀ k, p.layout.blockStart i ≤ k → q.bytes[k]? = p.bytes[k + p.layout.blockSize]?

/-- The number that a block had before block `i` was taken out. -/
def former (i k : Nat) : Nat := if k < i then k else k + 1

namespace Without

variable (w : q.Without p i)

include w

theorem positive : 0 < p.header.blockCount := Nat.zero_lt_of_lt w.inside

theorem layout_eq : q.layout = p.format.layout p.header.fewer := by
  rw [layout, w.format, w.header]

theorem blockCount : q.layout.blocks + 1 = p.layout.blocks := by
  rw [w.layout_eq]
  exact Header.blockCount_fewer w.positive

theorem sameCut : q.layout.SameCut p.layout := by
  rw [w.layout_eq]
  exact p.format.sameCut_fewer

theorem blockSize : q.layout.blockSize = p.layout.blockSize := by
  rw [w.layout_eq]
  rfl

theorem blockStart (k : Nat) : q.layout.blockStart k = p.layout.blockStart k := by
  rw [w.layout_eq]
  rfl

theorem matches_behind {k : Nat} (hk : p.layout.blockStart i ≤ k) (n : Nat) :
    q.bytes.Matches p.bytes k (k + p.layout.blockSize) n := by
  intro l _
  rw [w.behind _ (Nat.le_add_right_of_le hk), Nat.add_right_comm]

theorem matches_block (k : Nat) :
    q.bytes.Matches p.bytes (q.layout.blockStart k) (p.layout.blockStart (former i k))
      q.layout.blockSize := by
  rw [w.blockStart, w.blockSize, former]
  split
  · next before =>
    intro l hl
    have stop := p.layout.blockStart_mono (i := k + 1) before
    rw [Layout.blockStart_succ] at stop
    exact w.front _ (by rw [Layout.blockStart]; omega) (by omega)
  · next after =>
    rw [Layout.blockStart_succ]
    exact w.matches_behind (p.layout.blockStart_mono (Nat.not_lt.1 after)) _

theorem block? (lawful : p.format.Lawful) (k : Nat) : q.block? k = p.block? (former i k) := by
  rw [← w.format] at lawful
  exact block?_of_sameCut lawful (congrArg Format.fineAzimuth w.format) w.sameCut
    (w.matches_block k)

theorem blocks? (lawful : p.format.Lawful) {blocks : List Block} (read : p.blocks? = some blocks) :
    q.blocks? = some (blocks.eraseIdx i) := by
  obtain ⟨count, each⟩ := mapM_range_eq_some_iff.1 read
  have inside : i < blocks.length := count ▸ w.inside
  refine mapM_range_eq_some_iff.2 ⟨?_, ?_⟩
  · rw [List.length_eraseIdx_of_lt inside, count, ← w.blockCount, Nat.add_sub_cancel]
  · intro k hk
    rw [w.block? lawful, former, List.getElem_eraseIdx]
    split
    · exact each k _
    · exact each (k + 1) _

/-- Everything behind the blocks stands behind block `i` too. -/
theorem blockStart_le_tail : p.layout.blockStart i ≤ q.layout.tail := by
  have last : i ≤ q.layout.blocks := by
    have count : q.layout.blocks + 1 = p.header.blockCount := w.blockCount
    have inside := w.inside
    omega
  calc p.layout.blockStart i
      ≤ p.layout.blockStart q.layout.blocks := p.layout.blockStart_mono last
    _ = q.layout.blockStart q.layout.blocks := (w.blockStart _).symm
    _ ≤ q.layout.tail := (q.format.layout_order q.header).1

theorem matches_behind_tail {k : Nat} (late : q.layout.tail + q.format.tailSize ≤ k) (n : Nat) :
    q.bytes.Matches p.bytes k (k + p.layout.blockSize) n :=
  w.matches_behind (by have front := w.blockStart_le_tail; omega) n

theorem tail? (moves : p.format.Local) : q.tail? = p.tail? := by
  have earlier : p.layout.tail = q.layout.tail + p.layout.blockSize := by
    rw [w.layout_eq]
    exact (p.format.layout_fewer w.positive).1
  rw [Packet.tail?, Packet.tail?, w.format, earlier]
  exact moves _ _ _ _ (w.matches_behind w.blockStart_le_tail _)

theorem sequence? : q.sequence? = p.sequence? := by
  have earlier : p.layout.sequence = q.layout.sequence.map (· + p.layout.blockSize) := by
    rw [w.layout_eq]
    exact (p.format.layout_fewer w.positive).2.1
  rw [Packet.sequence?, Packet.sequence?, earlier]
  cases start : q.layout.sequence with
  | none => rfl
  | some k =>
    have order := (q.format.layout_order q.header).2.2.1 k start
    have bytes := w.matches_behind_tail order.1 4
    exact congrArg (Option.map some) (bytes.word32? (k := 0) (by decide))

theorem imu? : q.imu? = p.imu? := by
  have earlier : p.layout.imu = q.layout.imu.map (· + p.layout.blockSize) := by
    rw [w.layout_eq]
    exact (p.format.layout_fewer w.positive).2.2.1
  rw [Packet.imu?, Packet.imu?, earlier]
  cases start : q.layout.imu with
  | none => rfl
  | some k =>
    have order := (q.format.layout_order q.header).2.2.2 k start
    have bytes := w.matches_behind_tail order.1 Section.imu
    exact congrArg (Option.map some) (bytes.vector? (k := 0) (by decide) (by decide))

/-- Nothing is read but the other blocks and what was read before. -/
theorem contents? (lawful : p.format.Lawful) (moves : p.format.Local) {contents : Contents Tail}
    (read : p.contents? = some contents) :
    q.contents? = some { contents with blocks := contents.blocks.eraseIdx i } := by
  obtain ⟨blocks, tail, sequence, imu⟩ := contents?_eq_some_iff.1 read
  exact contents?_eq_some_iff.2 ⟨w.blocks? lawful blocks, (w.tail? moves).trans tail,
    w.sequence?.trans sequence, w.imu?.trans imu⟩

theorem complete (whole : p.Complete) : q.Complete := by
  have shorter : p.layout.size = q.layout.size + p.layout.blockSize := by
    rw [w.layout_eq]
    exact (p.format.layout_fewer w.positive).2.2.2
  rw [Complete, shorter, ← w.size] at whole
  exact Nat.le_of_add_le_add_right whole

end Without

end Packet

namespace Format

variable {Tail : Type} {f : Format Tail} {b : Bytes} {i : Nat}

/-- The bytes of a packet without those of block `i`, and with one block less in the header. -/
def withoutBlock (f : Format Tail) (b : Bytes) (i : Nat) : Bytes :=
  let l := (f.packetOf b).layout
  (b.extract 0 (l.blockStart i) ++ b.extract (l.blockStart (i + 1)) b.size).setIfInBounds 7
    (b.peek 7 - 1)

section

variable (whole : (f.packetOf b).Complete) (inside : i < (Header.ofBytes b).blockCount)

include whole inside

/-- The block ends within the packet. -/
theorem blockStart_succ_le : (f.packetOf b).layout.blockStart (i + 1) ≤ b.size := by
  have order := f.layout_order (.ofBytes b)
  calc (f.packetOf b).layout.blockStart (i + 1)
      ≤ (f.packetOf b).layout.blockStart (f.packetOf b).layout.blocks :=
        (f.packetOf b).layout.blockStart_mono inside
    _ ≤ (f.packetOf b).layout.tail := order.1
    _ ≤ (f.packetOf b).layout.size := Nat.le_trans (Nat.le_add_right _ _) order.2.1
    _ ≤ b.size := whole

theorem size_withoutBlock :
    (f.withoutBlock b i).size + (f.packetOf b).layout.blockSize = b.size := by
  have stop := blockStart_succ_le whole inside
  simp only [withoutBlock, Array.size_setIfInBounds, Array.size_append, Array.size_extract]
  rw [Layout.blockStart_succ] at stop ⊢
  omega

theorem headed_withoutBlock : 12 ≤ (f.withoutBlock b i).size := by
  have start : 12 ≤ (f.packetOf b).layout.blockStart i := Nat.le_add_right _ _
  have stop := blockStart_succ_le whole inside
  have size := size_withoutBlock whole inside
  rw [Layout.blockStart_succ] at stop
  omega

theorem getElem?_withoutBlock_front {k : Nat} (hk : k < (f.packetOf b).layout.blockStart i)
    (other : k ≠ 7) : (f.withoutBlock b i)[k]? = b[k]? := by
  have stop := blockStart_succ_le whole inside
  rw [Layout.blockStart_succ] at stop
  rw [withoutBlock, Array.getElem?_setIfInBounds_ne other.symm,
    Array.getElem?_append_left (by rw [Array.size_extract]; omega), Array.getElem?_extract,
    if_pos (by omega), Nat.zero_add]

theorem getElem?_withoutBlock_behind {k : Nat} (hk : (f.packetOf b).layout.blockStart i ≤ k) :
    (f.withoutBlock b i)[k]? = b[k + (f.packetOf b).layout.blockSize]? := by
  have twelve : 12 ≤ (f.packetOf b).layout.blockStart i := Nat.le_add_right _ _
  have stop := blockStart_succ_le whole inside
  have front : (b.extract 0 ((f.packetOf b).layout.blockStart i)).size =
      (f.packetOf b).layout.blockStart i := by
    rw [Layout.blockStart_succ] at stop
    rw [Array.size_extract]
    omega
  rw [withoutBlock, Array.getElem?_setIfInBounds_ne (by omega),
    Array.getElem?_append_right (by omega), front, Array.getElem?_extract, Layout.blockStart_succ]
  split
  · congr 1
    omega
  · exact (Array.getElem?_eq_none (by omega)).symm

theorem peek_withoutBlock {k : Nat} (hk : k < 12) :
    (f.withoutBlock b i).peek k = if k = 7 then b.peek 7 - 1 else b.peek k := by
  have twelve : 12 ≤ (f.packetOf b).layout.blockStart i := Nat.le_add_right _ _
  by_cases seven : k = 7
  · have long := headed_withoutBlock whole inside
    rw [withoutBlock, Array.size_setIfInBounds] at long
    rw [if_pos seven, seven, Bytes.peek, Array.getD_eq_getD_getElem?, withoutBlock,
      Array.getElem?_setIfInBounds_self_of_lt (by omega), Option.getD_some]
  · rw [if_neg seven, Bytes.peek, Bytes.peek, Array.getD_eq_getD_getElem?,
      Array.getD_eq_getD_getElem?, getElem?_withoutBlock_front whole inside (by omega) seven]

theorem ofBytes_withoutBlock : Header.ofBytes (f.withoutBlock b i) = (Header.ofBytes b).fewer := by
  simp (disch := decide) only [Header.ofBytes, Header.fewer, peek_withoutBlock whole inside]
  rfl

theorem without_packetOf : (f.packetOf (f.withoutBlock b i)).Without (f.packetOf b) i := by
  have header := ofBytes_withoutBlock whole inside
  have size := size_withoutBlock whole inside
  have front {k : Nat} := getElem?_withoutBlock_front whole inside (k := k)
  have behind {k : Nat} := getElem?_withoutBlock_behind whole inside (k := k)
  generalize f.withoutBlock b i = c at header size front behind ⊢
  refine ⟨rfl, header, inside, size, ?_, fun _ => behind⟩
  intro k (hk : 12 ≤ k) before
  exact front before (by omega)

end

theorem parse_withoutBlock (parsed : f.parse b = .ok (f.packetOf b))
    (inside : i < (Header.ofBytes b).blockCount) :
    f.parse (f.withoutBlock b i) = .ok (f.packetOf (f.withoutBlock b i)) := by
  obtain ⟨-, -, -, -, -, whole⟩ := parse_eq_ok_iff.1 parsed
  have long := headed_withoutBlock whole inside
  have peeked (k : Nat) (hk : k < 7) : (f.withoutBlock b i).peek k = b.peek k := by
    rw [peek_withoutBlock whole inside (by omega), if_neg (by omega)]
  have complete := (without_packetOf whole inside).complete whole
  generalize f.withoutBlock b i = c at long peeked complete ⊢
  have each := parse_eq_ok_packetOf_iff.1 parsed
  refine parse_eq_ok_packetOf_iff.2 ?_
  simp only [tests, Header.tests, List.forall_mem_append, List.forall_mem_cons,
    decide_eq_true_eq, peeked 0 (by decide), peeked 1 (by decide), peeked 2 (by decide),
    peeked 3 (by decide)] at each ⊢
  obtain ⟨⟨-, delimiter, -, -⟩, version, -, -⟩ := each
  exact ⟨⟨by omega, delimiter, long, List.forall_mem_nil _⟩, version, complete,
    List.forall_mem_nil _⟩

end Format

end Lidar
