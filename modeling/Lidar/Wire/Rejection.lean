namespace Lidar

inductive Rejection where
  | invalidDelimiter (first second : UInt8)
  /-- The protocol version belongs to another sensor. -/
  | unsupportedVersion (major minor : UInt8)
  /-- The packet ends before the layout that its header declares. -/
  | truncated (expected actual : Nat)
  | notCalibrated
  /-- The packet addresses more channels than the calibration covers. -/
  | channelMismatch (declared loaded : Nat)
  /-- The output buffers cannot hold the points of the packet. -/
  | outputTooSmall (needed actual : Nat)
deriving DecidableEq

/-- A byte as `0x` and two lowercase hexadecimal digits. -/
def hexByte (b : UInt8) : String :=
  String.ofList ['0', 'x', Nat.digitChar (b.toNat / 16), Nat.digitChar (b.toNat % 16)]

def Rejection.message : Rejection → String
  | invalidDelimiter a b => s!"invalid packet delimiter {hexByte a} {hexByte b}"
  | unsupportedVersion major minor => s!"unsupported protocol version {major}.{minor}"
  | truncated expected actual =>
    s!"packet truncated: expected at least {expected} bytes, got {actual}"
  | notCalibrated => "calibration is not loaded"
  | channelMismatch declared loaded =>
    s!"packet uses {declared} channels, calibration covers {loaded}"
  | outputTooSmall needed actual => s!"output buffer holds {actual} points, packet needs {needed}"

end Lidar
