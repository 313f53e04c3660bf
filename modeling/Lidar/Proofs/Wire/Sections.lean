import Lidar.Proofs.Wire.Acceptance
import Lidar.Proofs.Wire.Reading

namespace Lidar

/-- A stretch of bytes. -/
structure Span where
  start : Nat
  length : Nat
deriving DecidableEq

namespace Span

def stop (s : Span) : Nat := s.start + s.length

theorem stop_front (n : Nat) : (⟨0, n⟩ : Span).stop = n := Nat.zero_add n

/-- Two byte strings are the same on the stretch. -/
def Agree (s : Span) (a b : Bytes) : Prop := ∀ i, s.start ≤ i → i < s.stop → a[i]? = b[i]?

variable {s : Span} {b c : Bytes} {i n : Nat}

theorem Agree.matches (h : s.Agree b c) (front : s.start ≤ i) (back : i + n ≤ s.stop) :
    b.Matches c i i n :=
  fun k hk => h (i + k) (by omega) (by omega)

/-- Whatever is put behind a byte string. -/
theorem agree_append (more : Bytes) (inside : s.stop ≤ b.size) : s.Agree (b ++ more) b :=
  fun _ _ back => Array.getElem?_append_left (Nat.lt_of_lt_of_le back inside)

theorem agree_iff_matches : s.Agree b c ↔ b.Matches c s.start s.start s.length := by
  constructor
  · intro h
    exact h.matches (Nat.le_refl _) (Nat.le_refl _)
  · intro h i front back
    have place : s.start + (i - s.start) = i := Nat.add_sub_cancel' front
    rw [← place]
    exact h _ (Nat.sub_lt_left_of_lt_add front back)

instance (s : Span) (a b : Bytes) : Decidable (s.Agree a b) :=
  decidable_of_iff _ agree_iff_matches.symm

theorem Agree.byte? (h : s.Agree b c) (front : s.start ≤ i) (back : i + 1 ≤ s.stop) :
    b.byte? i = c.byte? i := h i front back

theorem Agree.peek (h : s.Agree b c) (front : s.start ≤ i) (back : i + 1 ≤ s.stop) :
    b.peek i = c.peek i := by
  rw [Bytes.peek_eq_getD, Bytes.peek_eq_getD, h.byte? front back]

/-- A byte read off the other string. -/
theorem Agree.peek_eq {x : UInt8} (h : s.Agree b c)
    (place : s.start ≤ i ∧ i + 1 ≤ s.stop ∧ c.peek i = x) : b.peek i = x :=
  (h.peek place.1 place.2.1).trans place.2.2

theorem Agree.word16? (h : s.Agree b c) (front : s.start ≤ i) (back : i + 2 ≤ s.stop) :
    b.word16? i = c.word16? i :=
  (h.matches front back).word16? (k := 0) (by decide)

theorem Agree.int16? (h : s.Agree b c) (front : s.start ≤ i) (back : i + 2 ≤ s.stop) :
    b.int16? i = c.int16? i :=
  (h.matches front back).int16? (k := 0) (by decide)

theorem Agree.word32? (h : s.Agree b c) (front : s.start ≤ i) (back : i + 4 ≤ s.stop) :
    b.word32? i = c.word32? i :=
  (h.matches front back).word32? (k := 0) (by decide)

theorem Agree.vector? (h : s.Agree b c) (some : 0 < n) (front : s.start ≤ i)
    (back : i + n ≤ s.stop) : b.vector? i n = c.vector? i n :=
  (h.matches front back).vector? (k := 0) some (by omega)

end Span

theorem Model.format_local (m : Model) : m.format.Local := by
  cases m with
  | p128 => exact P128.format_local
  | qt128 => exact QT128.format_local
  | at128 => exact AT128.format_local

namespace Packet

variable {Tail : Type} (p : Packet Tail)

def blockArea : Span := ⟨Header.size, p.layout.blocks * p.layout.blockSize⟩

def tailArea : Span := ⟨p.layout.tail, p.format.tailSize⟩

def sequenceArea? : Option Span := p.layout.sequence.map fun i => ⟨i, Section.sequence⟩

def imuArea? : Option Span := p.layout.imu.map fun i => ⟨i, Section.imu⟩

/-- The sections that are read, in their order. -/
def sections : List Span :=
  [p.blockArea, p.tailArea] ++ p.sequenceArea?.toList ++ p.imuArea?.toList

theorem sections_ordered : p.sections.Pairwise fun s t => s.stop ≤ t.start := by
  simp only [sections, blockArea, tailArea, sequenceArea?, imuArea?, layout, Format.layout,
    Layout.blockSize, Section.sizeIf]
  cases p.header.flags.sequence <;> cases p.format.imu && p.header.flags.imu <;>
    simp [Span.stop] <;> omega

theorem sections_inside : ∀ s ∈ p.sections, s.stop ≤ p.layout.size := by
  simp only [sections, blockArea, tailArea, sequenceArea?, imuArea?, layout, Format.layout,
    Layout.blockSize, Section.sizeIf]
  cases p.header.flags.sequence <;> cases p.format.imu && p.header.flags.imu <;>
    simp [Span.stop] <;> omega

variable {p}

theorem contents?_eq_some_iff {c : Contents Tail} :
    p.contents? = some c ↔ p.blocks? = some c.blocks ∧ p.tail? = some c.tail ∧
      p.sequence? = some c.sequence ∧ p.imu? = some c.imu := by
  obtain ⟨blocks, tail, sequence, imu⟩ := c
  simp only [contents?, Option.bind_eq_bind, Option.bind_eq_some_iff, Option.pure_def,
    Option.some.injEq, Contents.mk.injEq]
  constructor
  · rintro ⟨_, hb, _, ht, _, hs, _, hi, rfl, rfl, rfl, rfl⟩
    exact ⟨hb, ht, hs, hi⟩
  · rintro ⟨hb, ht, hs, hi⟩
    exact ⟨_, hb, _, ht, _, hs, _, hi, rfl, rfl, rfl, rfl⟩

theorem block?_eq_some_iff {i : Nat} {b : Block} :
    p.block? i = some b ↔ p.bytes.word16? (p.layout.blockStart i) = some b.azimuth ∧
      p.fineAzimuth? (p.layout.blockStart i) = some b.fineAzimuth ∧
      (List.range p.layout.lasers).mapM (p.return? i) = some b.returns := by
  obtain ⟨azimuth, fine, returns⟩ := b
  simp only [block?, Option.bind_eq_bind, Option.bind_eq_some_iff, Option.pure_def,
    Option.some.injEq, Block.mk.injEq]
  constructor
  · rintro ⟨_, ha, _, hf, _, hr, rfl, rfl, rfl⟩
    exact ⟨ha, hf, hr⟩
  · rintro ⟨ha, hf, hr⟩
    exact ⟨_, ha, _, hf, _, hr, rfl, rfl, rfl⟩

/-- There are as many blocks as the header declares, and as many returns in each. -/
theorem counts_of_blocks? {blocks : List Block} (h : p.blocks? = some blocks) :
    blocks.length = p.header.blockCount ∧
      ∀ b ∈ blocks, b.returns.length = p.header.laserCount := by
  obtain ⟨count, each⟩ := mapM_range_eq_some_iff.1 h
  refine ⟨count, fun b hb => ?_⟩
  obtain ⟨i, hi, rfl⟩ := List.getElem_of_mem hb
  exact (mapM_range_eq_some_iff.1 (block?_eq_some_iff.1 (each i hi)).2.2).1

variable {T' : Type} {q : Packet T'}

theorem blockArea_stop : p.blockArea.stop = p.layout.blockStart p.layout.blocks := rfl

theorem start_le_blockStart (i : Nat) : p.blockArea.start ≤ p.layout.blockStart i :=
  Nat.le_add_right _ _

/-- Equal numbers of blocks that are cut alike out of equal bytes are equal blocks. -/
theorem blocks?_of_sameCut (lawful : p.format.Lawful)
    (fine : p.format.fineAzimuth = q.format.fineAzimuth) (cut : p.layout.SameCut q.layout)
    (count : p.layout.blocks = q.layout.blocks) (h : p.blockArea.Agree p.bytes q.bytes) :
    p.blocks? = q.blocks? := by
  rw [blocks?, blocks?, ← count]
  apply mapM_congr
  intro i hi
  have outer := p.layout.blockStart_mono (i := i + 1) (List.mem_range.1 hi)
  rw [Layout.blockStart_succ] at outer
  apply block?_of_sameCut lawful fine cut
  rw [← cut.blockStart]
  exact h.matches (start_le_blockStart i) (by rwa [blockArea_stop])

theorem sequence?_congr (layout : p.layout = q.layout)
    (h : ∀ s ∈ p.sequenceArea?, s.Agree p.bytes q.bytes) : p.sequence? = q.sequence? := by
  rw [sequence?, sequence?, ← layout]
  cases start : p.layout.sequence with
  | none => rfl
  | some i =>
    have area : (⟨i, Section.sequence⟩ : Span) ∈ p.sequenceArea? := by
      rw [sequenceArea?, start]
      rfl
    exact congrArg (Option.map some) ((h _ area).word32? (Nat.le_refl i) (Nat.le_refl _))

theorem imu?_congr (layout : p.layout = q.layout)
    (h : ∀ s ∈ p.imuArea?, s.Agree p.bytes q.bytes) : p.imu? = q.imu? := by
  rw [imu?, imu?, ← layout]
  cases start : p.layout.imu with
  | none => rfl
  | some i =>
    have area : (⟨i, Section.imu⟩ : Span) ∈ p.imuArea? := by
      rw [imuArea?, start]
      rfl
    exact congrArg (Option.map some)
      ((h _ area).vector? (show 0 < Section.imu by decide) (Nat.le_refl i) (Nat.le_refl _))

/-- Bytes outside the sections have no influence on the contents. -/
theorem contents?_congr {m : Model} {p : Packet m.Tail} (format : p.format = m.format) {c : Bytes}
    (h : ∀ s ∈ p.sections, s.Agree p.bytes c) : { p with bytes := c }.contents? = p.contents? := by
  have layout : p.layout = ({ p with bytes := c } : Packet m.Tail).layout := rfl
  have lawful : p.format.Lawful := format ▸ m.format_lawful
  have moves : p.format.Local := format ▸ m.format_local
  simp only [sections, List.forall_mem_append, List.forall_mem_cons, Option.mem_toList] at h
  obtain ⟨⟨⟨blockArea, tailArea, -⟩, sequenceArea⟩, imuArea⟩ := h
  have blocks := blocks?_of_sameCut (q := { p with bytes := c }) lawful rfl ⟨rfl, rfl, rfl⟩ rfl
    blockArea
  have tail : p.tail? = ({ p with bytes := c } : Packet m.Tail).tail? :=
    moves _ _ _ _ (tailArea.matches (Nat.le_refl _) (Nat.le_refl _))
  rw [contents?, contents?, blocks, tail, sequence?_congr layout sequenceArea,
    imu?_congr layout imuArea]

end Packet

namespace Format

/-- The bytes begin like a packet of the format: delimiter, version and a whole header. -/
structure Opens {Tail : Type} (f : Format Tail) (b : Bytes) : Prop where
  whole : Header.size ≤ b.size
  first : b[0]? = some 0xEE
  second : b[1]? = some 0xFF
  major : b[2]? = some f.major
  minor : b[3]? = some f.minor

variable {Tail : Type} {f : Format Tail} {b : Bytes}

theorem parse_of_opens (h : f.Opens b) :
    f.parse b =
      if f.wireSize b.headerFields ≤ b.size then
        .ok { bytes := b, header := .ofBytes b, format := f }
      else .error (.truncated (f.wireSize b.headerFields) b.size) := by
  have peeked {i : Nat} {x : UInt8} (hx : b[i]? = some x) : b.peek i = x := by
    rw [Bytes.peek, Array.getD_eq_getD_getElem?, hx, Option.getD_some]
  have whole : 12 ≤ b.size := h.whole
  have two : 2 ≤ b.size := by omega
  have delimiter : b.peek 0 = 0xEE ∧ b.peek 1 = 0xFF := ⟨peeked h.first, peeked h.second⟩
  have version : b.peek 2 = f.major ∧ b.peek 3 = f.minor := ⟨peeked h.major, peeked h.minor⟩
  rw [parse_eq_guarded, tests, Header.tests, List.cons_append, List.cons_append, List.cons_append,
    List.nil_append, Test.guarded_cons_of_passed (decide_eq_true two),
    Test.guarded_cons_of_passed (decide_eq_true delimiter),
    Test.guarded_cons_of_passed (decide_eq_true h.whole),
    Test.guarded_cons_of_passed (decide_eq_true version)]
  split
  · next long => rw [Test.guarded_cons_of_passed (decide_eq_true long), Test.guarded_nil]
  · next short => rw [Test.guarded_cons_of_failed (decide_eq_false short)]

theorem Opens.append (h : f.Opens b) (more : Bytes) :
    f.Opens (b ++ more) ∧ (b ++ more).headerFields = b.headerFields ∧
      Header.ofBytes (b ++ more) = .ofBytes b := by
  have whole : 12 ≤ b.size := h.whole
  have kept (i : Nat) (hi : i < 12) : (b ++ more)[i]? = b[i]? :=
    Array.getElem?_append_left (by omega)
  have peeked (i : Nat) (hi : i < 12) : (b ++ more).peek i = b.peek i := by
    rw [Bytes.peek, Bytes.peek, Array.getD_eq_getD_getElem?, Array.getD_eq_getD_getElem?, kept i hi]
  refine ⟨⟨?_, ?_, ?_, ?_, ?_⟩, ?_, ?_⟩
  · rw [Array.size_append]
    exact Nat.le_add_right_of_le h.whole
  · exact (kept 0 (by decide)).trans h.first
  · exact (kept 1 (by decide)).trans h.second
  · exact (kept 2 (by decide)).trans h.major
  · exact (kept 3 (by decide)).trans h.minor
  · simp only [Bytes.headerFields, peeked 6 (by decide), peeked 7 (by decide),
      peeked 8 (by decide), peeked 9 (by decide), peeked 10 (by decide), peeked 11 (by decide)]
  · simp only [Header.ofBytes, peeked 2 (by decide), peeked 3 (by decide), peeked 4 (by decide),
      peeked 6 (by decide), peeked 7 (by decide), peeked 8 (by decide), peeked 9 (by decide),
      peeked 10 (by decide), peeked 11 (by decide)]

end Format

/-- The header alone says how long a packet has to be. A shorter one is refused with that length,
and any bytes that make up for it complete the packet; in one that is long enough the sections lie
in order within that length, nothing else is read, and blocks and returns are as many as
declared. -/
theorem declared_size_decides (m : Model) (b : Bytes) (opens : m.format.Opens b) :
    let n := m.format.wireSize b.headerFields
    (b.size < n → m.format.parse b = .error (.truncated n b.size) ∧
      ∀ more : Bytes, more.size = n - b.size → m.format.parse (b ++ more) =
        .ok { bytes := b ++ more, header := .ofBytes b, format := m.format }) ∧
    (n ≤ b.size → ∃ p contents, m.format.parse b = .ok p ∧ p.header = .ofBytes b ∧
      p.contents? = some contents ∧
      (p.sections.Pairwise fun s t => s.stop ≤ t.start) ∧ (∀ s ∈ p.sections, s.stop ≤ n) ∧
      (∀ c : Bytes, (∀ s ∈ p.sections, s.Agree b c) →
        { p with bytes := c }.contents? = some contents) ∧
      contents.blocks.length = p.header.blockCount ∧
      ∀ block ∈ contents.blocks, block.returns.length = p.header.laserCount) := by
  intro n
  constructor
  · intro short
    refine ⟨(Format.parse_of_opens opens).trans (if_neg (Nat.not_le.2 short)), ?_⟩
    intro more size
    obtain ⟨opensMore, fields, header⟩ := opens.append more
    have long : m.format.wireSize b.headerFields ≤ (b ++ more).size := by
      rw [Array.size_append, size]
      omega
    rw [Format.parse_of_opens opensMore, fields, header, if_pos long]
  · intro long
    have parsed := (Format.parse_of_opens opens).trans (if_pos long)
    have complete : Packet.Complete { bytes := b, header := .ofBytes b, format := m.format } := long
    obtain ⟨contents, read⟩ := Option.isSome_iff_exists.1
      (complete.contents?_isSome m.format_lawful)
    obtain ⟨blocks, returns⟩ :=
      Packet.counts_of_blocks? (Packet.contents?_eq_some_iff.1 read).1
    exact ⟨_, contents, parsed, rfl, read, Packet.sections_ordered _, Packet.sections_inside _,
      fun c same => (Packet.contents?_congr rfl same).trans read, blocks, returns⟩

/-- Two blocks of one laser, with sequence number, inertial data and some bytes behind. -/
def smallPacket : Bytes :=
  #[0xEE, 0xFF, 1, 4, 0, 0, 1, 2, 0, 4, 1, 0x13] ++ Array.replicate 80 7

theorem declared_size_decides_smallPacket :
    P128.format.Opens smallPacket ∧ P128.format.wireSize smallPacket.headerFields = 84 ∧
      ∃ p contents, P128.format.parse smallPacket = .ok p ∧ p.contents? = some contents ∧
        (∀ s ∈ p.sections, s.stop ≤ 84) ∧ contents.blocks.length = 2 := by
  have opens : P128.format.Opens smallPacket := ⟨by decide, rfl, rfl, rfl, rfl⟩
  obtain ⟨p, contents, parsed, header, read, -, inside, -, blocks, -⟩ :=
    (declared_size_decides .p128 smallPacket opens).2 (by decide)
  rw [header] at blocks
  exact ⟨opens, rfl, p, contents, parsed, read, inside, blocks⟩

end Lidar
