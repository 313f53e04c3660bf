import Lidar.Calibration.LoadError

namespace Lidar

abbrev Files := String → Option Bytes

def Files.read (files : Files) (path : String) : Except TransportKind Bytes :=
  (files path).elim (.error .notFound) .ok

inductive CalibrationSource where
  | memory (blob : Bytes)
  | file (path : String)
  /-- A connection that fails. -/
  | failing (kind : TransportKind)

namespace CalibrationSource

def describe : CalibrationSource → String
  | memory blob => s!"in-memory blob of {blob.size} bytes"
  | file path => s!"file {path}"
  | failing _ => "calibration source"

def fetch (files : Files) : CalibrationSource → Except TransportKind Bytes
  | memory blob => .ok blob
  | file path => files.read path
  | failing kind => .error kind

end CalibrationSource

end Lidar
