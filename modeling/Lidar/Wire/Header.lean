import Lidar.Bytes
import Lidar.Wire.Rejection

namespace Lidar

/-- The flag byte, which announces optional sections and unit formats. -/
structure Flags where
  bits : UInt8
deriving DecidableEq

namespace Flags

def has (f : Flags) (mask : UInt8) : Bool := f.bits &&& mask ≠ 0

def sequence (f : Flags) : Bool := f.has 0x01
def imu (f : Flags) : Bool := f.has 0x02
def functionSafety (f : Flags) : Bool := f.has 0x04
def cyberSecurity (f : Flags) : Bool := f.has 0x08
def confidence (f : Flags) : Bool := f.has 0x10
def slope (f : Flags) : Bool := f.has 0x20
def selfDefine (f : Flags) : Bool := f.has 0x40

end Flags

structure Header where
  major : UInt8
  minor : UInt8
  statusInfo : UInt8
  lasers : UInt8
  blocks : UInt8
  echoCount : UInt8
  /-- The unit of distance, in millimetres. -/
  distanceUnit : UInt8
  echoNumber : UInt8
  flags : Flags
deriving DecidableEq

namespace Header

/-- The length of delimiter, version and header together. -/
def size : Nat := 12

def laserCount (h : Header) : Nat := h.lasers.toNat

def blockCount (h : Header) : Nat := h.blocks.toNat

def capacity (h : Header) : Nat := h.laserCount * h.blockCount

/-- Metres for one step of raw distance. -/
def distanceScale (h : Header) : Float32 := h.distanceUnit.toFloat32 / 1000.0

/-- The fields behind the delimiter. -/
def fields? (b : Bytes) : Option Header := do
  return {
    major := ← b.byte? 2
    minor := ← b.byte? 3
    statusInfo := ← b.byte? 4
    lasers := ← b.byte? 6
    blocks := ← b.byte? 7
    echoCount := ← b.byte? 8
    distanceUnit := ← b.byte? 9
    echoNumber := ← b.byte? 10
    flags := ⟨← b.byte? 11⟩ }

theorem fields?_isSome {b : Bytes} : (fields? b).isSome ↔ size ≤ b.size :=
  (isSome_bind_iff Bytes.byte?_isSome fun _ => isSome_bind_iff Bytes.byte?_isSome fun _ =>
    isSome_bind_iff Bytes.byte?_isSome fun _ => isSome_bind_iff Bytes.byte?_isSome fun _ =>
    isSome_bind_iff Bytes.byte?_isSome fun _ => isSome_bind_iff Bytes.byte?_isSome fun _ =>
    isSome_bind_iff Bytes.byte?_isSome fun _ => isSome_bind_iff Bytes.byte?_isSome fun _ =>
    isSome_last_iff Bytes.byte?_isSome).trans (by simp only [size]; omega)

/-- The header of a packet. The delimiter is looked at before the length of the rest. -/
def parse (b : Bytes) : Except Rejection Header :=
  match b.byte? 0, b.byte? 1 with
  | some first, some second =>
    if first = 0xEE ∧ second = 0xFF then
      (fields? b).elim (.error (.truncated size b.size)) .ok
    else .error (.invalidDelimiter first second)
  | _, _ => .error (.truncated size b.size)

end Header

end Lidar
