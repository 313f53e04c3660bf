namespace Lidar

inductive TransportKind where
  | notFound
  | unexpectedEnd
  | invalidInput
  | invalidData
  | connectionRefused
  | permissionDenied
  | timedOut
  | other
deriving DecidableEq

def TransportKind.text : TransportKind → String
  | notFound => "not found"
  | unexpectedEnd => "unexpected end of file"
  | invalidInput => "invalid input"
  | invalidData => "invalid data"
  | connectionRefused => "connection refused"
  | permissionDenied => "permission denied"
  | timedOut => "timed out"
  | other => "other failure"

/-- A failure of a packet source, with a text of its own if it has one. -/
structure TransportError where
  kind : TransportKind
  text : Option String
deriving DecidableEq

end Lidar
