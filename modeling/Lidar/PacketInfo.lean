import Lidar.Sensor.Model
import Lidar.Time
import Lidar.Wire.Packet
import Lidar.Wire.Tail

namespace Lidar

structure PacketInfo where
  header : Header
  sequence : Option UInt32
  status : Status
  /-- Bytes of inertial data. -/
  imuSize : Option Nat

namespace PacketInfo

/-- An optional number, marked as present or absent. -/
def optional {α : Type} [ToString α] : Option α → String
  | none => "None"
  | some x => s!"Some({x})"

def render (i : PacketInfo) : String :=
  "\t".intercalate [
    s!"lasers: {i.header.lasers}",
    s!"blocks: {i.header.blocks}",
    s!"unit: {i.header.distanceUnit}mm",
    s!"flags: {hexByte i.header.flags.bits}",
    s!"seq: {optional i.sequence}",
    s!"return: {hexByte i.status.returnMode}",
    s!"speed: {i.status.motorSpeed}",
    s!"ts: {optional (sensorTime? i.status.utc i.status.timestamp)}",
    s!"imu bytes: {optional i.imuSize}"]

/-- What a packet of a format tells; the fault is that of a section outside the packet. -/
def ofPacket {Tail : Type} (f : Format Tail) (status : Tail → Status) (b : Bytes) :
    Except Rejection (Option PacketInfo) := do
  let p ← f.parse b
  return p.contents?.map fun c =>
    { header := p.header
      sequence := c.sequence
      status := status c.tail
      imuSize := c.imu.map fun _ => Section.imu }

def ofModel : Model → Bytes → Except Rejection (Option PacketInfo)
  | .p128 => ofPacket P128.format P128.Tail.status
  | .qt128 => ofPacket QT128.format QT128.Tail.status
  | .at128 => ofPacket AT128.format AT128.Tail.status

end PacketInfo

end Lidar
