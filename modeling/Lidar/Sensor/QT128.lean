import Lidar.Calibration.ChannelConfig
import Lidar.Calibration.FireTimes
import Lidar.Sensor.P128

namespace Lidar.QT128

def channelLimit : Nat := 128

/-- The tables that can be loaded, and the switch for the use of the firing times. -/
structure Tables where
  calibration : Option AngleCorrection := none
  config : Option ChannelConfig := none
  fireTimes : Option FireTimes := none
  fireTimeCorrection : Bool := true

namespace Tables

/-- The channel table, if the packet announces a custom sequence. -/
def configFor (t : Tables) (h : Header) : Option ChannelConfig :=
  if h.flags.selfDefine then t.config else none

/-- The firing times, unless they are switched off. -/
def activeFireTimes (t : Tables) : Option FireTimes :=
  if t.fireTimeCorrection then t.fireTimes else none

def needed (t : Tables) (h : Header) : Nat :=
  match t.configFor h with
  | none => h.laserCount
  | some c => max h.laserCount (c.maxChannel + 1)

def channel (t : Tables) (h : Header) (loop position : Nat) : Nat :=
  ((t.configFor h).bind (·.remap loop position)).getD position

def fireOffset (t : Tables) (loop channel : Nat) (rpm : UInt16) : Int :=
  match t.activeFireTimes with
  | none => 0
  | some f => f.azimuthOffset loop channel rpm

/-- The direction of a wire position. The azimuth has to fit 64 bits. -/
def direction (t : Tables) (c : AngleCorrection) (h : Header) (tail : Tail) (loop : Nat)
    (blockAzimuth : UInt16) (position : Nat) : Except Fault Direction := do
  let channel := t.channel h loop position
  let d ← Spinning.direction c blockAzimuth channel
  let azimuth := d.azimuth + t.fireOffset loop channel tail.motorSpeed
  if WordRange.int64.contains azimuth then return { d with azimuth }
  else throw (.azimuthOverflow azimuth)

def correction (t : Tables) (c : AngleCorrection) : Correction Tail where
  elevations := c.channels.map (·.elevation)
  needed := t.needed
  aim h tail i b := some {
    azimuth := b.azimuth.toNat
    direction := t.direction c h tail (tail.loopIndex i) b.azimuth }

end Tables

def family : Family Tail Tables where
  format := format
  angles := .milliDegree
  status := Tail.status
  noTables := {}
  initialMotion := Spinning.initialMotion
  correction? t := t.calibration.map t.correction
  azimuthRadians := Spinning.azimuthRadians
  elevationRadians := Spinning.elevationRadians
  constantsOf := Constants.spinning

end Lidar.QT128
