import Lidar.Wire.Layout

namespace Lidar

/-- A packet that is long enough for the layout of its header. -/
structure Packet (Tail : Type) where
  bytes : Bytes
  header : Header
  format : Format Tail

structure Contents (Tail : Type) where
  blocks : List Block
  tail : Tail
  sequence : Option UInt32
  imu : Option (Vector UInt8 Section.imu)
deriving DecidableEq

/-- The packet in a datagram: header first, then protocol version, then length. -/
def Format.parse {Tail : Type} (f : Format Tail) (b : Bytes) : Except Rejection (Packet Tail) := do
  let header ← Header.parse b
  if header.major ≠ f.major ∨ header.minor ≠ f.minor then
    throw (.unsupportedVersion header.major header.minor)
  let size := (f.layout header).size
  if b.size < size then
    throw (.truncated size b.size)
  return { bytes := b, header, format := f }

namespace Packet

variable {Tail : Type} (p : Packet Tail)

def layout : Layout := p.format.layout p.header

/-- Return `j` of block `i`. A fourth byte of a return is ignored. -/
def return? (i j : Nat) : Option WireReturn := do
  let start := p.layout.returnStart i j
  return { distance := ← p.bytes.word16? start, reflectivity := ← p.bytes.byte? (start + 2) }

/-- The fine azimuth of the block at an offset, zero for formats without one. -/
def fineAzimuth? (start : Nat) : Option UInt8 :=
  if p.format.fineAzimuth then p.bytes.byte? (start + 2) else some 0

def block? (i : Nat) : Option Block := do
  let start := p.layout.blockStart i
  return {
    azimuth := ← p.bytes.word16? start
    fineAzimuth := ← p.fineAzimuth? start
    returns := ← (List.range p.layout.lasers).mapM (p.return? i) }

def blocks? : Option (List Block) := (List.range p.layout.blocks).mapM p.block?

def tail? : Option Tail := p.format.readTail? p.bytes p.layout.tail

def sequence? : Option (Option UInt32) :=
  match p.layout.sequence with
  | none => some none
  | some i => (p.bytes.word32? i).map some

def imu? : Option (Option (Vector UInt8 Section.imu)) :=
  match p.layout.imu with
  | none => some none
  | some i => (p.bytes.vector? i Section.imu).map some

def contents? : Option (Contents Tail) := do
  return {
    blocks := ← p.blocks?
    tail := ← p.tail?
    sequence := ← p.sequence?
    imu := ← p.imu? }

/-- The packet is as long as its header declares. -/
def Complete : Prop := p.layout.size ≤ p.bytes.size

theorem return?_isSome {i j : Nat} :
    (p.return? i j).isSome ↔ p.layout.returnStart i j + 3 ≤ p.bytes.size :=
  (isSome_bind_iff Bytes.word16?_isSome fun _ =>
    isSome_last_iff Bytes.byte?_isSome).trans (by omega)

theorem block?_isSome (lawful : p.format.Lawful) {i : Nat}
    (h : p.layout.blockStart (i + 1) ≤ p.bytes.size) : (p.block? i).isSome := by
  have returnSize : 3 ≤ p.layout.returnSize := lawful.returnSize_ge p.header.flags
  have azimuthSize : p.layout.azimuthSize = if p.format.fineAzimuth then 3 else 2 := rfl
  have stop := p.layout.blockStart_succ i
  simp only [Layout.blockSize] at stop
  have returns : ((List.range p.layout.lasers).mapM (p.return? i)).isSome := by
    refine isSome_mapM_iff.2 fun j hj => p.return?_isSome.2 ?_
    have := p.layout.returnStart_add_le (i := i) (List.mem_range.1 hj)
    omega
  refine (isSome_bind_iff Bytes.word16?_isSome fun _ => isSome_bind_iff Iff.rfl fun _ =>
    isSome_last_iff Iff.rfl).2 ⟨?_, ?_, returns⟩
  · split at azimuthSize <;> omega
  · unfold fineAzimuth?
    split
    · exact Bytes.byte?_isSome.2 (by simp_all only [if_true]; omega)
    · rfl

theorem Complete.contents?_isSome {p : Packet Tail} (complete : p.Complete)
    (lawful : p.format.Lawful) : p.contents?.isSome := by
  obtain ⟨blocks, tail, sequence, imu⟩ := p.format.layout_order p.header
  change p.layout.size ≤ p.bytes.size at complete
  refine (isSome_bind_iff isSome_mapM_iff fun _ =>
    isSome_bind_iff (lawful.readTail?_isSome _ _) fun _ => isSome_bind_iff Iff.rfl fun _ =>
    isSome_last_iff Iff.rfl).2 ⟨fun i hi => ?_, ?_, ?_, ?_⟩
  · have := p.layout.blockStart_mono (i := i + 1) (List.mem_range.1 hi)
    exact p.block?_isSome lawful (by simp only [layout] at *; omega)
  · simp only [layout] at *
    omega
  · cases h : p.layout.sequence with
    | none => simp [sequence?, h]
    | some i =>
      have := sequence i h
      simp only [sequence?, h, Option.isSome_map, Bytes.word32?_isSome]
      simp only [layout, Section.sequence] at *
      omega
  · cases h : p.layout.imu with
    | none => simp [imu?, h]
    | some i =>
      have := imu i h
      simp only [imu?, h, Option.isSome_map, Bytes.vector?_isSome]
      simp only [layout] at *
      omega

end Packet

/-- What parsing accepts: a header of the format's version, and all the bytes it declares. -/
theorem Format.parse_eq_ok_iff {Tail : Type} {f : Format Tail} {b : Bytes} {p : Packet Tail} :
    f.parse b = .ok p ↔ Header.parse b = .ok p.header ∧ p.bytes = b ∧ p.format = f ∧
      p.header.major = f.major ∧ p.header.minor = f.minor ∧ p.Complete := by
  cases hd : Header.parse b with
  | error e => simp [parse, hd, bind, Except.bind]
  | ok h =>
    obtain ⟨bytes, header, format⟩ := p
    simp only [parse, hd, bind, Except.bind, pure, Except.pure, throw, throwThe,
      MonadExceptOf.throw, Packet.Complete, Packet.layout]
    by_cases version : h.major ≠ f.major ∨ h.minor ≠ f.minor
    · simp only [version, if_true, reduceCtorEq, false_iff, Except.ok.injEq]
      rintro ⟨rfl, -, -, major, minor, -⟩
      exact version.elim (· major) (· minor)
    · by_cases cut : b.size < (f.layout h).size
      · simp only [version, cut, if_true, if_false, reduceCtorEq, false_iff, Except.ok.injEq]
        rintro ⟨rfl, rfl, rfl, -, -, complete⟩
        omega
      · simp only [version, cut, if_false, Except.ok.injEq, Packet.mk.injEq]
        constructor
        · rintro ⟨rfl, rfl, rfl⟩
          simp only [not_or, ne_eq, Decidable.not_not] at version
          exact ⟨rfl, rfl, rfl, version.1, version.2, by omega⟩
        · rintro ⟨rfl, rfl, rfl, -⟩
          exact ⟨rfl, rfl, rfl⟩

end Lidar
