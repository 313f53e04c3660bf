import Lidar.Wire.Header

namespace Lidar

structure WireReturn where
  distance : UInt16
  reflectivity : UInt8
deriving DecidableEq

/-- One azimuth with the returns of all its lasers. -/
structure Block where
  /-- Hundredths of a degree. -/
  azimuth : UInt16
  /-- Steps of 1/256 of that; zero for the spinning sensors. -/
  fineAzimuth : UInt8
  returns : List WireReturn
deriving DecidableEq

/-- What a packet format decides beyond the common order of sections. -/
structure Format (Tail : Type) where
  major : UInt8
  minor : UInt8
  /-- Blocks carry a fine azimuth byte. -/
  fineAzimuth : Bool
  /-- Bytes of one return. -/
  returnSize : Flags → Nat
  /-- The format knows the function safety section. -/
  functionSafety : Bool
  /-- The format knows the inertial data section. -/
  imu : Bool
  tailSize : Nat
  readTail? : Bytes → Nat → Option Tail

namespace Section

def bodyChecksum : Nat := 4
def functionSafety : Nat := 17
def sequence : Nat := 4
def imu : Nat := 22
def tailChecksum : Nat := 4
def signature : Nat := 32

/-- The length of an optional section. -/
def sizeIf (present : Bool) (size : Nat) : Nat := if present then size else 0

end Section

/-- Section offsets in bytes from the start of the packet. All sensors share one order: header,
blocks, checksum, function safety, tail, sequence number, inertial data, checksum, signature.
Function safety, sequence number, inertial data and signature are there only if their header flag is
set and the format knows them. -/
structure Layout where
  blocks : Nat
  lasers : Nat
  /-- Bytes of the azimuth in front of a block's returns. -/
  azimuthSize : Nat
  returnSize : Nat
  tail : Nat
  sequence : Option Nat
  imu : Option Nat
  size : Nat
deriving DecidableEq

namespace Layout

def blockSize (l : Layout) : Nat := l.azimuthSize + l.lasers * l.returnSize

/-- The offset of block `i`; block `l.blocks` would start where the blocks end. -/
def blockStart (l : Layout) (i : Nat) : Nat := Header.size + i * l.blockSize

/-- The offset of return `j` of block `i`. -/
def returnStart (l : Layout) (i j : Nat) : Nat :=
  l.blockStart i + l.azimuthSize + j * l.returnSize

theorem blockStart_succ (l : Layout) (i : Nat) :
    l.blockStart (i + 1) = l.blockStart i + l.blockSize := by
  simp only [blockStart, Nat.succ_mul]
  omega

theorem blockStart_mono (l : Layout) {i j : Nat} (h : i ≤ j) : l.blockStart i ≤ l.blockStart j :=
  Nat.add_le_add_left (Nat.mul_le_mul_right _ h) _

theorem returnStart_add_le (l : Layout) {i j : Nat} (h : j < l.lasers) :
    l.returnStart i j + l.returnSize ≤ l.blockStart (i + 1) := by
  have := Nat.mul_le_mul_right l.returnSize (Nat.succ_le_of_lt h)
  rw [blockStart_succ]
  simp only [returnStart, blockSize, Nat.succ_mul] at *
  omega

end Layout

def Format.layout {Tail : Type} (f : Format Tail) (h : Header) : Layout :=
  let azimuthSize := if f.fineAzimuth then 3 else 2
  let returnSize := f.returnSize h.flags
  let bodyEnd := Header.size + h.blockCount * (azimuthSize + h.laserCount * returnSize)
  let tail := bodyEnd + Section.bodyChecksum +
    Section.sizeIf (f.functionSafety && h.flags.functionSafety) Section.functionSafety
  let sequence := tail + f.tailSize
  let imu := sequence + Section.sizeIf h.flags.sequence Section.sequence
  let checksum := imu + Section.sizeIf (f.imu && h.flags.imu) Section.imu
  { blocks := h.blockCount
    lasers := h.laserCount
    azimuthSize
    returnSize
    tail
    sequence := if h.flags.sequence then some sequence else none
    imu := if f.imu && h.flags.imu then some imu else none
    size := checksum + Section.tailChecksum +
      Section.sizeIf h.flags.cyberSecurity Section.signature }

/-- A format whose returns hold a distance and a reflectivity, and whose tail can be read where
its bytes are. -/
structure Format.Lawful {Tail : Type} (f : Format Tail) : Prop where
  returnSize_ge : ∀ flags, 3 ≤ f.returnSize flags
  readTail?_isSome : ∀ b i, (f.readTail? b i).isSome ↔ i + f.tailSize ≤ b.size

/-- The tail lies behind the blocks, and the optional sections between the tail and the end. -/
theorem Format.layout_order {Tail : Type} (f : Format Tail) (h : Header) :
    let l := f.layout h
    l.blockStart l.blocks ≤ l.tail ∧ l.tail + f.tailSize ≤ l.size ∧
      (∀ i ∈ l.sequence, l.tail + f.tailSize ≤ i ∧ i + Section.sequence ≤ l.size) ∧
      (∀ i ∈ l.imu, l.tail + f.tailSize ≤ i ∧ i + Section.imu ≤ l.size) := by
  simp only [layout, Layout.blockStart, Layout.blockSize, Section.sizeIf, Option.mem_def,
    Option.ite_none_right_eq_some, Option.some.injEq]
  refine ⟨by omega, by omega, ?_, ?_⟩
  · rintro i ⟨present, hi⟩
    simp only [present, if_true] at *
    omega
  · rintro i ⟨present, hi⟩
    simp only [present, if_true] at *
    omega

end Lidar
