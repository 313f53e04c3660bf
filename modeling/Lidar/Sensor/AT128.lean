import Lidar.Calibration.Sweep
import Lidar.Decoder.Family

namespace Lidar.AT128

def fineRadians (a : Int) : Float32 := (toRadians (Float.ofInt a / 25600.0)).toFloat32

def blockAzimuth (b : Block) : Int :=
  (b.azimuth.toNat * fineSteps + b.fineAzimuth.toNat) % circle

def direction (c : SweepCalibration) (field : Nat) (a : Int) (channel : Nat) :
    Except Fault Direction := do
  return {
    elevation := ← Fault.outsideTable.unless (c.elevationAt? channel a)
    azimuth := ← c.azimuthAt channel field a }

def aim (c : SweepCalibration) (b : Block) : Option Aim :=
  let a := blockAzimuth b
  (c.field? a).map fun field => { azimuth := a, direction := direction c field a }

def correction (c : SweepCalibration) : Correction Tail where
  elevations := c.channels.map (·.elevation)
  needed h := h.laserCount
  aim _ _ _ := aim c

def family : Family Tail (Option SweepCalibration) where
  format := format
  angles := .fineDegree
  status := Tail.status
  noTables := none
  initialMotion := { speed := 0, dualReturn := true }
  correction? := Option.map correction
  azimuthRadians := fineRadians
  elevationRadians := fineRadians
  constantsOf := Constants.sweeping

end Lidar.AT128
