import Lidar.Calibration.AngleCorrection
import Lidar.Decoder.Family

namespace Lidar

namespace Spinning

/-- Thousandths of a degree in a step of the wire azimuth. -/
def azimuthScale : Int := 10

def azimuthRadians (hundredths : Int) : Float32 :=
  toRadians32 (Float32.ofInt hundredths / 100.0)

def elevationRadians (thousandths : Int) : Float32 :=
  toRadians32 (Float32.ofInt thousandths / 1000.0)

def direction (c : AngleCorrection) (blockAzimuth : UInt16) (channel : Nat) :
    Except Fault Direction := do
  let base ← Fault.outsideTable.unless c.channels[channel]?
  return {
    elevation := base.elevation
    azimuth := azimuthScale * blockAzimuth.toNat + base.azimuth }

def initialMotion : Motion := { speed := 0, dualReturn := false }

end Spinning

namespace P128

def channelLimit : Nat := 128

def correction (c : AngleCorrection) : Correction Tail where
  elevations := c.channels.map (·.elevation)
  needed h := h.laserCount
  aim _ _ _ b := some {
    azimuth := b.azimuth.toNat
    direction := Spinning.direction c b.azimuth }

def family : Family Tail (Option AngleCorrection) where
  format := format
  angles := .milliDegree
  status := Tail.status
  noTables := none
  initialMotion := Spinning.initialMotion
  correction? := Option.map correction
  azimuthRadians := Spinning.azimuthRadians
  elevationRadians := Spinning.elevationRadians
  constantsOf := Constants.spinning

end P128

end Lidar
