import Lidar.Sensor.AT128
import Lidar.Sensor.Model
import Lidar.Sensor.QT128

namespace Lidar

inductive Decoder where
  | p128 (state : State (Option AngleCorrection))
  | qt128 (state : State QT128.Tables)
  | at128 (state : State (Option SweepCalibration))

namespace Decoder

def ofModel : Model → Decoder
  | .p128 => .p128 P128.family.initial
  | .qt128 => .qt128 QT128.family.initial
  | .at128 => .at128 AT128.family.initial

def model : Decoder → Model
  | p128 _ => .p128
  | qt128 _ => .qt128
  | at128 _ => .at128

/-- The tables that can be loaded. -/
inductive Table where
  | calibration
  | channelConfig
  | fireTimes

/-- How a load ends, and the decoder that it leaves. -/
structure Load where
  outcome : Except LoadError Unit
  decoder : Decoder

/-- The decoder with its new table, if the load succeeded. -/
def Load.result (l : Load) : Except LoadError Decoder := l.outcome.map fun _ => l.decoder

/-- Puts a table in place, if its blob was read. -/
def install {α : Type} (d : Decoder) (read : Except LoadError α) (put : α → Decoder) : Load :=
  match read with
  | .ok table => { outcome := .ok (), decoder := put table }
  | .error e => { outcome := .error e, decoder := d }

def load (d : Decoder) (blob : Bytes) : Table → Load
  | .calibration =>
    match d with
    | p128 s =>
      d.install (AngleCorrection.parse blob P128.channelLimit) fun c =>
        p128 { s with tables := some c }
    | qt128 s =>
      d.install (AngleCorrection.parse blob QT128.channelLimit) fun c =>
        qt128 { s with tables := { s.tables with calibration := some c } }
    | at128 s =>
      d.install (SweepCalibration.parse blob) fun c => at128 { s with tables := some c }
  | .channelConfig =>
    match d with
    | qt128 s =>
      d.install (ChannelConfig.parse blob) fun c =>
        qt128 { s with tables := { s.tables with config := some c } }
    | _ => { outcome := .error (.notSupported .channelConfig), decoder := d }
  | .fireTimes =>
    match d with
    | qt128 s =>
      d.install (FireTimes.parse blob) fun f =>
        qt128 { s with tables := { s.tables with fireTimes := some f } }
    | _ => { outcome := .error (.notSupported .fireTimes), decoder := d }

def loadCalibration (d : Decoder) (blob : Bytes) : Except LoadError Decoder :=
  (d.load blob .calibration).result

def loadChannelConfig (d : Decoder) (blob : Bytes) : Except LoadError Decoder :=
  (d.load blob .channelConfig).result

def loadFireTimes (d : Decoder) (blob : Bytes) : Except LoadError Decoder :=
  (d.load blob .fireTimes).result

/-- The decoder with the use of firing times switched on or off; others have no such switch. -/
def setFireTimeCorrection (d : Decoder) (on : Bool) : Decoder :=
  match d with
  | qt128 s => qt128 { s with tables := { s.tables with fireTimeCorrection := on } }
  | d => d

def isCalibrated : Decoder → Bool
  | p128 s => P128.family.isCalibrated s
  | qt128 s => QT128.family.isCalibrated s
  | at128 s => AT128.family.isCalibrated s

/-- The largest number of points in a packet, from its header alone. -/
def capacity (packet : Bytes) : Except Rejection Nat :=
  return (← Header.parse packet).capacity

/-- Decodes a packet into the first points of the buffers. Packets have to come in order of
arrival. -/
def decode (d : Decoder) (packet : Bytes) (out : Buffers) : Verdict × Decoder × Buffers :=
  match d with
  | p128 s =>
    let (v, s, out) := P128.family.decode s packet out
    (v, p128 s, out)
  | qt128 s =>
    let (v, s, out) := QT128.family.decode s packet out
    (v, qt128 s, out)
  | at128 s =>
    let (v, s, out) := AT128.family.decode s packet out
    (v, at128 s, out)

def constants : Decoder → Constants
  | p128 s => P128.family.constants s
  | qt128 s => QT128.family.constants s
  | at128 s => AT128.family.constants s

/-- The calibrated elevation of a channel in degrees. -/
def verticalAngle : Decoder → Nat → Except ChannelError Float
  | p128 s => P128.family.verticalAngle s
  | qt128 s => QT128.family.verticalAngle s
  | at128 s => AT128.family.verticalAngle s

def reset : Decoder → Decoder
  | p128 s => p128 s.reset
  | qt128 s => qt128 s.reset
  | at128 s => at128 s.reset

end Decoder

end Lidar
