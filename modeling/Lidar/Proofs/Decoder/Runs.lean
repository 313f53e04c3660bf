import Lidar.Decoder.Basic
import Lidar.Proofs.Calibration.SweepBlob

namespace Lidar

namespace SweepCalibration

/-- Every channel has its own entries in both offset tables, and the fields start at angles that 64
bits hold. -/
structure Filled (c : SweepCalibration) : Prop where
  azimuths : c.channels.size * offsetsPerChannel ≤ c.azimuthOffsets.size
  elevations : c.channels.size * offsetsPerChannel ≤ c.elevationOffsets.size
  starts : ∀ field ∈ c.fields, 0 ≤ field.start ∧ WordRange.int64.contains field.start = true

theorem filled_of_parse {b : Bytes} {c : SweepCalibration} (parsed : parse b = .ok c) :
    c.Filled := by
  obtain ⟨h, e, -, -, -, encoded, body⟩ := parse_eq_ok_iff.1 parsed
  obtain ⟨s, read, rfl⟩ := parseBody_eq_ok_iff.1 body
  constructor
  · rw [read.size_channels, read.size_offsets.1]
    exact read.enough
  · rw [read.size_channels, read.size_offsets.2]
    exact read.enough
  · exact read.starts_fit encoded

end SweepCalibration

theorem Family.decode_tables {Tail Tables : Type} (f : Family Tail Tables) (s : State Tables)
    (packet : Bytes) (out : Buffers) : (f.decode s packet out).2.1.tables = s.tables := by
  unfold decode
  split
  · rfl
  · split <;> rfl

namespace Decoder

/-- What can be done to a decoder. -/
inductive Operation where
  | loadCalibration (blob : Bytes)
  | loadChannelConfig (blob : Bytes)
  | loadFireTimes (blob : Bytes)
  | setFireTimeCorrection (on : Bool)
  | reset
  | decode (packet : Bytes) (out : Buffers)

/-- The decoder after an operation. -/
def apply (d : Decoder) : Operation → Decoder
  | .loadCalibration blob => (d.load blob .calibration).decoder
  | .loadChannelConfig blob => (d.load blob .channelConfig).decoder
  | .loadFireTimes blob => (d.load blob .fireTimes).decoder
  | .setFireTimeCorrection on => d.setFireTimeCorrection on
  | .reset => d.reset
  | .decode packet out => (d.decode packet out).2.1

def after (d : Decoder) (ops : List Operation) : Decoder := ops.foldl apply d

/-- The calibration of a sweeping sensor has all its offsets. -/
def Sound : Decoder → Prop
  | at128 s => ∀ c, s.tables = some c → c.Filled
  | _ => True

end Decoder

end Lidar
