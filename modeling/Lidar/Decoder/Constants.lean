import Lidar.Angle

namespace Lidar

/-- What a packet tells about the motion of the sensor. -/
structure Motion where
  /-- Revolutions per minute, or the signed speed of the sweep. -/
  speed : Int
  dualReturn : Bool
deriving DecidableEq

structure Constants where
  maxPayload : Nat
  packetsPerSecond : Int
  pointsPerSecond : Int
  spinFrequency : Float32
  packetsPerSpin : Int
  pointsPerPacket : Nat
  pointsPerSpin : Int
  pointStride : Nat
  /-- Bounds of the field of view in radians. -/
  horizontalView : Float32 × Float32
  verticalView : Float32 × Float32
  rowCount : Nat
  rows : Array Float32

namespace Constants

def longestPacket : Nat := 1500

def rowLimit : Nat := 128

/-- The elevations of the first rows; rows without a channel are level. -/
def rowsOf (elevations : Array Float32) : Array Float32 :=
  Array.ofFn fun i : Fin rowLimit => elevations.getD i 0

/-- Packets of one revolution with a single return. -/
def spinningPacketsPerSpin : Int := 900

def spinningPointsPerPacket : Nat := 256

/-- The speed assumed until a packet reports another one. -/
def spinningSpeed : Int := 600

/-- The constants of the spinning sensors. A dual return doubles the packets of a revolution. -/
def spinning (m : Motion) (elevations : Array Float32) : Constants :=
  let rpm := if m.speed = 0 then spinningSpeed else m.speed
  let spinFrequency := Float32.ofInt rpm / 60.0
  let packetsPerSpin := spinningPacketsPerSpin * (if m.dualReturn then 2 else 1)
  let packetsPerSecond := nearestUInt32 (Float32.ofInt packetsPerSpin * spinFrequency)
  { maxPayload := longestPacket
    packetsPerSecond
    pointsPerSecond := packetsPerSecond * spinningPointsPerPacket
    spinFrequency
    packetsPerSpin
    pointsPerPacket := spinningPointsPerPacket
    pointsPerSpin := packetsPerSpin * spinningPointsPerPacket
    pointStride := 8
    horizontalView := (0.0, 2.0 * pi32)
    verticalView := (toRadians32 (-52.6), toRadians32 52.6)
    rowCount := rowLimit
    rows := rowsOf elevations }

/-- The sweep speed assumed until a packet reports a positive one. -/
def sweepSpeed : Int := 2000

/-- The constants of the sweeping sensor. They grow with the speed, and a single return
halves them. -/
def sweeping (m : Motion) (elevations : Array Float32) : Constants :=
  let speed := if m.speed ≤ 0 then sweepSpeed else m.speed
  let scale := Float32.ofInt speed / Float32.ofInt sweepSpeed / (if m.dualReturn then 1.0 else 2.0)
  let spinFrequency := Float32.ofInt speed / 200.0
  let packetsPerSpin := nearestUInt32 (1250.0 * scale)
  let pointsPerSpin := nearestUInt32 (320000.0 * scale)
  { maxPayload := longestPacket
    packetsPerSecond := nearestUInt32 (Float32.ofInt packetsPerSpin * spinFrequency)
    pointsPerSecond := nearestUInt32 (Float32.ofInt pointsPerSpin * spinFrequency)
    spinFrequency
    packetsPerSpin
    pointsPerPacket := 256
    pointsPerSpin
    pointStride := 4
    horizontalView := (0.5, 2.8)
    verticalView := (-0.216697, 0.224673)
    rowCount := rowLimit
    rows := rowsOf elevations }

end Constants

end Lidar
