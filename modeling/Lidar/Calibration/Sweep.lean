import Lidar.Calibration.LoadError
import Lidar.Calibration.Interpolation
import Lidar.Fault
import Lidar.Point

namespace Lidar

/-- Steps of a hundredth of a degree. -/
def fineSteps : Int := 256

/-- A full circle in 1/25600 degree. -/
def circle : Int := 36000 * fineSteps

/-- Entries of an offset table for each channel. -/
def offsetsPerChannel : Nat := 180

/-- The azimuth between two entries of an offset table, which is two degrees. -/
def offsetStep : Int := 51200

/-- An arc of the circle that is swept as one field. -/
structure Sector where
  start : Int
  stop : Int
deriving DecidableEq

/-- Whether an azimuth lies on the arc, ends included. Walking from the start to the azimuth and
on to the stop is then no longer than walking from start to stop; the arc may pass zero. -/
def Sector.contains (s : Sector) (a : Int) : Bool :=
  (a - s.start) % circle + (s.stop - a) % circle = (s.stop - s.start) % circle

/-- The calibration of the sensor that sweeps a few fields in turn, one with each facet of its
turning optics. Angles are in 1/25600 degree, offsets in hundredths of a degree. -/
structure SweepCalibration where
  major : UInt8
  minor : UInt8
  channelNumber : UInt8
  facetNumber : UInt8
  frameNumber : UInt8
  frameConfig : Vector UInt8 8
  resolution : UInt8
  fields : Array Sector
  channels : Array Direction
  azimuthOffsets : Array Int
  elevationOffsets : Array Int
  digest : Vector UInt8 32
deriving DecidableEq

namespace SweepCalibration

/-- The field an azimuth falls in: the first whose arc contains it. -/
def field? (c : SweepCalibration) (a : Int) : Option Nat :=
  c.fields.findIdx? (·.contains (a % circle))

/-- The offset of a channel at an azimuth, interpolated between the two entries around it;
the last entry is followed by the first. -/
def offsetIn? (α : Type) [Interpolating α] (table : Array Int) (channel : Nat) (a : Int) :
    Option Int := do
  let a := a % circle
  let i := (a / offsetStep).toNat
  let base := channel * offsetsPerChannel
  let lo ← table[base + i]?
  let hi ← table[base + (i + 1) % offsetsPerChannel]?
  return interpolate α offsetStep lo hi (a - i * offsetStep)

/-- The offset of a channel at an azimuth as the sensor's tables give it. -/
def offset? (table : Array Int) (channel : Nat) (a : Int) : Option Int :=
  offsetIn? Float table channel a

def azimuthOffset? (c : SweepCalibration) (channel : Nat) (a : Int) : Option Int :=
  offset? c.azimuthOffsets channel a

def elevationOffset? (c : SweepCalibration) (channel : Nat) (a : Int) : Option Int :=
  offset? c.elevationOffsets channel a

/-- The elevation of a channel at a block azimuth. -/
def elevationAt? (c : SweepCalibration) (channel : Nat) (a : Int) : Option Int := do
  let base ← c.channels[channel]?
  let offset ← c.elevationOffset? channel a
  return base.elevation + offset * fineSteps

/-- The azimuth of a channel at a block azimuth. The beam turns twice as far from the start of the
field as the facet that reflects it. Unlike the offset, the way from the start is taken before the
azimuth is brought to the circle, so it has to fit 64 bits. -/
def azimuthAt (c : SweepCalibration) (channel field : Nat) (a : Int) : Except Fault Int := do
  let sector ← Fault.outsideTable.unless c.fields[field]?
  let way := a - sector.start
  if !WordRange.int64.contains way then throw (.azimuthOverflow way)
  let base ← Fault.outsideTable.unless c.channels[channel]?
  let offset ← Fault.outsideTable.unless (c.azimuthOffset? channel a)
  return way % circle * 2 - base.azimuth + offset * fineSteps

def azimuthAt? (c : SweepCalibration) (channel field : Nat) (a : Int) : Option Int :=
  (c.azimuthAt channel field a).toOption

structure BlobHeader where
  delimiter : Vector UInt8 2
  major : UInt8
  minor : UInt8
  channels : UInt8
  facets : UInt8
  frames : UInt8
  frameConfig : Vector UInt8 8
  resolution : UInt8

def BlobHeader.size : Nat := 16

def BlobHeader.read? (b : Bytes) : Option BlobHeader := do
  return {
    delimiter := ← b.vector? 0 2
    major := ← b.byte? 2
    minor := ← b.byte? 3
    channels := ← b.byte? 4
    facets := ← b.byte? 5
    frames := ← b.byte? 6
    frameConfig := ← b.vector? 7 8
    resolution := ← b.byte? 15 }

/-- How a version writes numbers. -/
structure Encoding where
  wordSize : Nat
  unsigned? : Bytes → Nat → Option Int
  signed? : Bytes → Nat → Option Int
  /-- Entries of each offset table. -/
  offsetCount : Nat
  /-- From stored words to 1/25600 degree. -/
  boundary : Int → Int
  angle : Int → Int
  offset : Int → Int

/-- The 32-bit integer with the same low bits. -/
def wrap32 (x : Int) : Int := x.bmod UInt32.size

/-- Version 3: words of 16 bits in hundredths of a degree, and offset tables of a fixed size. -/
def shortWords : Encoding where
  wordSize := 2
  unsigned? := fun b i => (b.word16? i).map fun w => w.toNat
  signed? := fun b i => (b.int16? i).map Int16.toInt
  offsetCount := 36000
  boundary := (· * fineSteps)
  angle := (· * fineSteps)
  offset := id

/-- Version 5: words of 32 bits, offset tables sized by the channels, a factor for everything. -/
def longWords (channels resolution : UInt8) : Encoding where
  wordSize := 4
  unsigned? := fun b i => (b.word32? i).map fun w => w.toNat
  signed? := fun b i => (b.word32? i).map fun w => w.toInt32.toInt
  offsetCount := channels.toNat * offsetsPerChannel
  boundary := (· * resolution.toNat)
  angle := fun x => wrap32 (x * resolution.toNat)
  offset := fun x => wrap32 (x * resolution.toNat)

def encoding? (h : BlobHeader) : Option Encoding :=
  if h.minor = 3 then some shortWords
  else if h.minor = 5 then some (longWords h.channels h.resolution)
  else none

/-- A section that was read, or the complaint that it is cut short. -/
def require {α : Type} (part : BlobSection) (x : Option α) : Except LoadError α :=
  x.elim (.error (.truncated part)) .ok

def words? (read : Nat → Option Int) (start width n : Nat) : Option (List Int) :=
  (List.range n).mapM fun i => read (start + width * i)

/-- A byte in two's complement. -/
def signedByte? (b : Bytes) (i : Nat) : Option Int := (b.byte? i).map fun x => x.toInt8.toInt

/-- The sections after the header, in reading order: starts and ends of the fields, azimuths and
elevations of the channels, azimuth and elevation offsets, digest. -/
def parseBody (b : Bytes) (h : BlobHeader) (e : Encoding) : Except LoadError SweepCalibration := do
  let frames := h.frames.toNat
  let channels := h.channels.toNat
  let w := e.wordSize
  let endsAt := BlobHeader.size + w * frames
  let azimuthsAt := endsAt + w * frames
  let elevationsAt := azimuthsAt + w * channels
  let azimuthOffsetsAt := elevationsAt + w * channels
  let elevationOffsetsAt := azimuthOffsetsAt + e.offsetCount
  let digestAt := elevationOffsetsAt + e.offsetCount
  let starts ← require .startFrames (words? (e.unsigned? b) BlobHeader.size w frames)
  let stops ← require .endFrames (words? (e.unsigned? b) endsAt w frames)
  let azimuths ← require .azimuth (words? (e.signed? b) azimuthsAt w channels)
  let elevations ← require .elevation (words? (e.signed? b) elevationsAt w channels)
  if e.offsetCount < channels * offsetsPerChannel then throw (.unsupportedVersion h.minor)
  let azimuthOffsets ← require .azimuthOffsets
    (words? (signedByte? b) azimuthOffsetsAt 1 e.offsetCount)
  let elevationOffsets ← require .elevationOffsets
    (words? (signedByte? b) elevationOffsetsAt 1 e.offsetCount)
  let digest ← require .digest (b.vector? digestAt 32)
  return {
    major := h.major
    minor := h.minor
    channelNumber := h.channels
    facetNumber := h.facets
    frameNumber := h.frames
    frameConfig := h.frameConfig
    resolution := h.resolution
    fields := (List.zipWith (fun s t => ⟨e.boundary s, e.boundary t⟩) starts stops).toArray
    channels := (List.zipWith (fun v a => ⟨e.angle v, e.angle a⟩) elevations azimuths).toArray
    azimuthOffsets := (azimuthOffsets.map e.offset).toArray
    elevationOffsets := (elevationOffsets.map e.offset).toArray
    digest }

/-- The calibration in a byte string. Bytes after the digest are ignored. -/
def parse (b : Bytes) : Except LoadError SweepCalibration := do
  let h ← require .header (BlobHeader.read? b)
  if h.delimiter ≠ #v[0xEE, 0xFF] then throw .invalidDelimiter
  if h.channels = 0 ∨ h.frames = 0 then throw .empty
  match encoding? h with
  | some e => parseBody b h e
  | none => throw (.unsupportedVersion h.minor)

end SweepCalibration

end Lidar
