import Lidar.Wire.Layout

namespace Lidar

/-- Return modes from this value on report two returns per firing. -/
def dualReturnMode : UInt8 := 0x39

def isDualReturn (returnMode : UInt8) : Bool := dualReturnMode ≤ returnMode

/-- The tail fields that decoding uses. -/
structure Status where
  /-- Revolutions per minute, or the signed speed of the sweep. -/
  motorSpeed : Int
  returnMode : UInt8
  utc : Vector UInt8 6
  /-- Microseconds within the second. -/
  timestamp : UInt32
deriving DecidableEq

namespace P128

structure Tail where
  reserved1 : Vector UInt8 3
  reserved2 : Vector UInt8 3
  reserved3 : Vector UInt8 3
  azimuthFlag : UInt16
  runningMode : UInt8
  returnMode : UInt8
  motorSpeed : UInt16
  utc : Vector UInt8 6
  timestamp : UInt32
  factoryInfo : UInt8
deriving DecidableEq

def Tail.read? (b : Bytes) (i : Nat) : Option Tail := do
  return {
    reserved1 := ← b.vector? i 3
    reserved2 := ← b.vector? (i + 3) 3
    reserved3 := ← b.vector? (i + 6) 3
    azimuthFlag := ← b.word16? (i + 9)
    runningMode := ← b.byte? (i + 11)
    returnMode := ← b.byte? (i + 12)
    motorSpeed := ← b.word16? (i + 13)
    utc := ← b.vector? (i + 15) 6
    timestamp := ← b.word32? (i + 21)
    factoryInfo := ← b.byte? (i + 25) }

theorem Tail.read?_isSome {b : Bytes} {i : Nat} : (Tail.read? b i).isSome ↔ i + 26 ≤ b.size :=
  (isSome_bind_iff Bytes.vector?_isSome fun _ => isSome_bind_iff Bytes.vector?_isSome fun _ =>
    isSome_bind_iff Bytes.vector?_isSome fun _ => isSome_bind_iff Bytes.word16?_isSome fun _ =>
    isSome_bind_iff Bytes.byte?_isSome fun _ => isSome_bind_iff Bytes.byte?_isSome fun _ =>
    isSome_bind_iff Bytes.word16?_isSome fun _ => isSome_bind_iff Bytes.vector?_isSome fun _ =>
    isSome_bind_iff Bytes.word32?_isSome fun _ =>
    isSome_last_iff Bytes.byte?_isSome).trans (by omega)

def Tail.status (t : Tail) : Status :=
  { motorSpeed := t.motorSpeed.toNat, returnMode := t.returnMode
    utc := t.utc, timestamp := t.timestamp }

/-- Version 1.4: returns grow by a confidence byte, and all optional sections are known. -/
def format : Format Tail where
  major := 1
  minor := 4
  fineAzimuth := false
  returnSize flags := if flags.confidence then 4 else 3
  functionSafety := true
  imu := true
  tailSize := 26
  readTail? := Tail.read?

theorem format_lawful : format.Lawful where
  returnSize_ge flags := by simp only [format]; split <;> decide
  readTail?_isSome _ _ := Tail.read?_isSome

end P128

namespace QT128

structure Tail where
  reserved1 : Vector UInt8 3
  reserved2 : Vector UInt8 2
  /-- Selects the firing loop of the first block. -/
  modeFlag : UInt8
  reserved3 : Vector UInt8 3
  azimuthFlag : UInt16
  workingMode : UInt8
  returnMode : UInt8
  motorSpeed : UInt16
  utc : Vector UInt8 6
  timestamp : UInt32
  factoryInfo : UInt8
deriving DecidableEq

def Tail.read? (b : Bytes) (i : Nat) : Option Tail := do
  return {
    reserved1 := ← b.vector? i 3
    reserved2 := ← b.vector? (i + 3) 2
    modeFlag := ← b.byte? (i + 5)
    reserved3 := ← b.vector? (i + 6) 3
    azimuthFlag := ← b.word16? (i + 9)
    workingMode := ← b.byte? (i + 11)
    returnMode := ← b.byte? (i + 12)
    motorSpeed := ← b.word16? (i + 13)
    utc := ← b.vector? (i + 15) 6
    timestamp := ← b.word32? (i + 21)
    factoryInfo := ← b.byte? (i + 25) }

theorem Tail.read?_isSome {b : Bytes} {i : Nat} : (Tail.read? b i).isSome ↔ i + 26 ≤ b.size :=
  (isSome_bind_iff Bytes.vector?_isSome fun _ => isSome_bind_iff Bytes.vector?_isSome fun _ =>
    isSome_bind_iff Bytes.byte?_isSome fun _ => isSome_bind_iff Bytes.vector?_isSome fun _ =>
    isSome_bind_iff Bytes.word16?_isSome fun _ => isSome_bind_iff Bytes.byte?_isSome fun _ =>
    isSome_bind_iff Bytes.byte?_isSome fun _ => isSome_bind_iff Bytes.word16?_isSome fun _ =>
    isSome_bind_iff Bytes.vector?_isSome fun _ => isSome_bind_iff Bytes.word32?_isSome fun _ =>
    isSome_last_iff Bytes.byte?_isSome).trans (by omega)

def Tail.status (t : Tail) : Status :=
  { motorSpeed := t.motorSpeed.toNat, returnMode := t.returnMode
    utc := t.utc, timestamp := t.timestamp }

/-- The firing loop of a block. Loops alternate from block to block, or from pair to pair of
blocks when each firing reports two returns. -/
def Tail.loopIndex (t : Tail) (block : Nat) : Nat :=
  let blocksPerLoop := if isDualReturn t.returnMode then 2 else 1
  (t.modeFlag.toNat + block / blocksPerLoop + 1) % 2

/-- Version 3.2: as its larger sibling, without inertial data. -/
def format : Format Tail where
  major := 3
  minor := 2
  fineAzimuth := false
  returnSize flags := if flags.confidence then 4 else 3
  functionSafety := true
  imu := false
  tailSize := 26
  readTail? := Tail.read?

theorem format_lawful : format.Lawful where
  returnSize_ge flags := by simp only [format]; split <;> decide
  readTail?_isSome _ _ := Tail.read?_isSome

end QT128

namespace AT128

structure Tail where
  reserved1 : Vector UInt8 3
  reserved2 : Vector UInt8 3
  shutdownFlag : UInt8
  reserved3 : Vector UInt8 3
  reserved4 : Vector UInt8 8
  motorSpeed : Int16
  timestamp : UInt32
  returnMode : UInt8
  factoryInfo : UInt8
  utc : Vector UInt8 6
deriving DecidableEq

def Tail.read? (b : Bytes) (i : Nat) : Option Tail := do
  return {
    reserved1 := ← b.vector? i 3
    reserved2 := ← b.vector? (i + 3) 3
    shutdownFlag := ← b.byte? (i + 6)
    reserved3 := ← b.vector? (i + 7) 3
    reserved4 := ← b.vector? (i + 10) 8
    motorSpeed := ← b.int16? (i + 18)
    timestamp := ← b.word32? (i + 20)
    returnMode := ← b.byte? (i + 24)
    factoryInfo := ← b.byte? (i + 25)
    utc := ← b.vector? (i + 26) 6 }

theorem Tail.read?_isSome {b : Bytes} {i : Nat} : (Tail.read? b i).isSome ↔ i + 32 ≤ b.size :=
  (isSome_bind_iff Bytes.vector?_isSome fun _ => isSome_bind_iff Bytes.vector?_isSome fun _ =>
    isSome_bind_iff Bytes.byte?_isSome fun _ => isSome_bind_iff Bytes.vector?_isSome fun _ =>
    isSome_bind_iff Bytes.vector?_isSome fun _ => isSome_bind_iff Bytes.int16?_isSome fun _ =>
    isSome_bind_iff Bytes.word32?_isSome fun _ => isSome_bind_iff Bytes.byte?_isSome fun _ =>
    isSome_bind_iff Bytes.byte?_isSome fun _ =>
    isSome_last_iff Bytes.vector?_isSome).trans (by omega)

def Tail.status (t : Tail) : Status :=
  { motorSpeed := t.motorSpeed.toInt, returnMode := t.returnMode
    utc := t.utc, timestamp := t.timestamp }

/-- Version 4.3: fine azimuths, returns of four bytes, neither function safety nor inertial
data. -/
def format : Format Tail where
  major := 4
  minor := 3
  fineAzimuth := true
  returnSize _ := 4
  functionSafety := false
  imu := false
  tailSize := 32
  readTail? := Tail.read?

theorem format_lawful : format.Lawful where
  returnSize_ge _ := by simp [format]
  readTail?_isSome _ _ := Tail.read?_isSome

end AT128

end Lidar
