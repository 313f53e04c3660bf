import Lidar.Decoder.Constants
import Lidar.Decoder.Scan
import Lidar.Time
import Lidar.Wire.Packet
import Lidar.Wire.Tail

namespace Lidar

/-- The output of a decoder: two buffers of equal meaning. -/
structure Buffers where
  cartesian : Array CartesianPoint
  spherical : Array SphericalPoint

namespace Buffers

/-- The points that fit both buffers. -/
def room (b : Buffers) : Nat := min b.cartesian.size b.spherical.size

/-- Buffers of `n` points at the origin. -/
def blank (n : Nat) : Buffers :=
  ⟨Array.replicate n .origin, Array.replicate n .origin⟩

def ofPoints (points : List Point) : Buffers :=
  ⟨(points.map (·.cartesian)).toArray, (points.map (·.spherical)).toArray⟩

def take (b : Buffers) (n : Nat) : Buffers :=
  ⟨b.cartesian.extract 0 n, b.spherical.extract 0 n⟩

def drop (b : Buffers) (n : Nat) : Buffers :=
  ⟨b.cartesian.extract n b.cartesian.size, b.spherical.extract n b.spherical.size⟩

def append (a b : Buffers) : Buffers :=
  ⟨a.cartesian ++ b.cartesian, a.spherical ++ b.spherical⟩

/-- Writes points over the first ones; the rest stays. -/
def overwrite (b : Buffers) (points : List Point) : Buffers :=
  (ofPoints points).append (b.drop points.length)

theorem take_overwrite (b : Buffers) (points : List Point) :
    (b.overwrite points).take points.length = ofPoints points := by
  simp [overwrite, append, take, ofPoints, ← List.map_take]

theorem size_overwrite {b : Buffers} {points : List Point} (h : points.length ≤ b.room) :
    (b.overwrite points).cartesian.size = b.cartesian.size ∧
      (b.overwrite points).spherical.size = b.spherical.size := by
  simp only [room] at h
  simp only [overwrite, append, drop, ofPoints, Array.size_append, List.size_toArray,
    List.length_map, Array.size_extract]
  omega

end Buffers

/-- What an accepted packet reports besides its points. -/
structure Report where
  pointCount : Nat
  scanComplete : Bool
  /-- Microseconds since the start of the year 1970. -/
  time : Option Int
  /-- Least and greatest block azimuth in radians. -/
  azimuths : Float32 × Float32
  /-- Least and greatest elevation of the declared lasers in radians. -/
  elevations : Float32 × Float32
  motorSpeed : Int
  returnMode : UInt8
  dualReturn : Bool
  sequence : Option UInt32
  lasers : UInt8
  blocks : UInt8

/-- How loaded tables correct the angles of a packet. -/
structure Correction (Tail : Type) where
  elevations : Array Int
  /-- The channels that a packet addresses. -/
  needed : Header → Nat
  /-- Where the returns of a block point; none passes the block over. -/
  aim : Header → Tail → Nat → Block → Option Aim

/-- The least angle and the greatest, as radians; zero if there are none. -/
def Bounds.radians (radians : Int → Float32) : Option Bounds → Float32 × Float32
  | none => (0, 0)
  | some b => (radians b.least, radians b.greatest)

/-- A family of sensors: packet format, angle units, and the use of its tables. -/
structure Family (Tail Tables : Type) where
  format : Format Tail
  angles : AngleTable
  status : Tail → Status
  /-- Nothing is loaded before the first calibration. -/
  noTables : Tables
  /-- The motion assumed before the first packet. -/
  initialMotion : Motion
  /-- None as long as no calibration is loaded. -/
  correction? : Tables → Option (Correction Tail)
  azimuthRadians : Int → Float32
  elevationRadians : Int → Float32
  constantsOf : Motion → Array Float32 → Constants

structure State (Tables : Type) where
  tables : Tables
  splitter : Splitter
  motion : Motion
deriving DecidableEq

inductive Verdict where
  | accepted (report : Report)
  | rejected (reason : Rejection)
  | aborted (fault : Fault)

inductive ChannelError where
  | notLoaded
  | outOfRange (channel loaded : Nat)
deriving DecidableEq

def ChannelError.message : ChannelError → String
  | notLoaded => "calibration is not loaded"
  | outOfRange channel loaded => s!"channel {channel} out of range, {loaded} channels loaded"

def elevationDegrees (angles : AngleTable) (elevations : Array Int) (channel : Nat) :
    Except ChannelError Float :=
  match elevations[channel]? with
  | some e => .ok (Float.ofInt e / Float.ofNat angles.unitsPerDegree)
  | none => .error (.outOfRange channel elevations.size)

namespace Family

variable {Tail Tables : Type} (f : Family Tail Tables)

def initial : State Tables :=
  { tables := f.noTables, splitter := .start, motion := f.initialMotion }

/-- The tests a packet has to pass, in their order. -/
def admission (s : State Tables) (packet : Bytes) (room : Nat) :
    Except Rejection (Packet Tail × Correction Tail) := do
  let p ← f.format.parse packet
  match f.correction? s.tables with
  | none => throw .notCalibrated
  | some c =>
    let needed := c.needed p.header
    if c.elevations.size < needed then throw (.channelMismatch needed c.elevations.size)
    if room < p.header.capacity then throw (.outputTooSmall p.header.capacity room)
    return (p, c)

/-- The contents of an admitted packet and the walk over its blocks. -/
def scan (splitter : Splitter) (p : Packet Tail) (c : Correction Tail) :
    Except Fault (Contents Tail × Scan) := do
  let contents ← Fault.outsidePacket.unless p.contents?
  let scan ← Scan.run f.angles p.header.distanceScale (c.aim p.header contents.tail)
    contents.blocks.zipIdx splitter
  return (contents, scan)

def report (h : Header) (c : Correction Tail) (contents : Contents Tail) (scan : Scan) : Report :=
  let status := f.status contents.tail
  { pointCount := scan.points.length
    scanComplete := scan.complete
    time := sensorTime? status.utc status.timestamp
    azimuths := Bounds.radians f.azimuthRadians scan.azimuths
    elevations := Bounds.radians f.elevationRadians
      (Bounds.ofList (c.elevations.toList.take h.laserCount))
    motorSpeed := status.motorSpeed
    returnMode := status.returnMode
    dualReturn := isDualReturn status.returnMode
    sequence := contents.sequence
    lasers := h.lasers
    blocks := h.blocks }

def motion (t : Tail) : Motion :=
  { speed := (f.status t).motorSpeed, dualReturn := isDualReturn (f.status t).returnMode }

/-- Decodes a packet into the first points of the buffers. -/
def decode (s : State Tables) (packet : Bytes) (out : Buffers) :
    Verdict × State Tables × Buffers :=
  match f.admission s packet out.room with
  | .error reason => (.rejected reason, s, out)
  | .ok (p, c) =>
    match f.scan s.splitter p c with
    | .error fault => (.aborted fault, s, out)
    | .ok (contents, scan) =>
      (.accepted (f.report p.header c contents scan),
        { s with splitter := scan.splitter, motion := f.motion contents.tail },
        out.overwrite scan.points)

def constants (s : State Tables) : Constants :=
  let elevations := ((f.correction? s.tables).map (·.elevations)).getD #[]
  f.constantsOf s.motion (elevations.map f.elevationRadians)

def verticalAngle (s : State Tables) (channel : Nat) : Except ChannelError Float :=
  match f.correction? s.tables with
  | none => .error .notLoaded
  | some c => elevationDegrees f.angles c.elevations channel

def isCalibrated (s : State Tables) : Bool := (f.correction? s.tables).isSome

end Family

/-- Forgets the frame in progress; the next block starts a new one. -/
def State.reset {Tables : Type} (s : State Tables) : State Tables :=
  { s with splitter := .start }

end Lidar
