import Lidar.Transport
import Lidar.Text.Lines
import Lidar.Text.Integer

namespace Lidar

/-- The sections of a binary calibration, in reading order. -/
inductive BlobSection where
  | header
  | startFrames
  | endFrames
  | azimuth
  | elevation
  | azimuthOffsets
  | elevationOffsets
  | digest
deriving DecidableEq

def BlobSection.name : BlobSection → String
  | header => "header"
  | startFrames => "start frames"
  | endFrames => "end frames"
  | azimuth => "azimuth"
  | elevation => "elevation"
  | azimuthOffsets => "azimuth offsets"
  | elevationOffsets => "elevation offsets"
  | digest => "digest"

/-- The lines that a text table cannot do without. -/
inductive HeaderLine where
  | angleCorrection
  | configVersion
  | configSize
  | configColumns
  | fireTimesVersion
  | fireTimesLoopCount
  | fireTimesColumns
deriving DecidableEq

def HeaderLine.name : HeaderLine → String
  | angleCorrection => "angle correction"
  | configVersion => "channel config version"
  | configSize => "channel config size"
  | configColumns => "channel config columns"
  | fireTimesVersion => "fire times version"
  | fireTimesLoopCount => "fire times loop count"
  | fireTimesColumns => "fire times columns"

inductive AuxiliaryTable where
  | channelConfig
  | fireTimes
deriving DecidableEq

def AuxiliaryTable.name : AuxiliaryTable → String
  | channelConfig => "channel config"
  | fireTimes => "fire times"

/-- Why calibration data were refused. -/
inductive LoadError where
  | invalidDelimiter
  | unsupportedVersion (version : UInt8)
  | truncated (part : BlobSection)
  | missingHeader (line : HeaderLine)
  | lineCount (expected actual : Nat)
  | laserId (line : Nat) (id : Int)
  | invalidField (line : Nat) (field : String)
  | empty
  | notSupported (table : AuxiliaryTable)
  /-- The data could not be fetched at all. -/
  | unavailable (kind : TransportKind)
deriving DecidableEq

namespace LoadError

def message : LoadError → String
  | invalidDelimiter => "invalid calibration delimiter"
  | unsupportedVersion v => s!"unsupported calibration version {v}"
  | truncated part => s!"calibration truncated while reading {part.name}"
  | missingHeader line => s!"missing header line in {line.name}"
  | lineCount expected actual => s!"expected {expected} lines, found {actual}"
  | laserId line id => s!"invalid laser id {id} on line {line}"
  | invalidField line field => s!"invalid field `{field}` on line {line}"
  | empty => "calibration contains no channels"
  | notSupported table => s!"{table.name} is not supported by this sensor model"
  | unavailable kind => kind.text

def field (line : Nat) (text : List Char) : LoadError := .invalidField line (String.ofList text)

end LoadError

namespace Text

/-- The characters of a text table; binary data are refused. -/
def ofBlob (b : Bytes) : Except LoadError (List Char) :=
  (ofBytes? b).elim (.error (.invalidField 1 "<binary data>")) .ok

/-- A field read by `read`, or a complaint about it. -/
def readField {α : Type} (read : List Char → Option α) (line : Nat) (text : List Char) :
    Except LoadError α :=
  (read text).elim (.error (.field line text)) .ok

/-- The first of the remaining lines, which has to be there. -/
def headerLine (what : HeaderLine) : List Line → Except LoadError (Line × List Line)
  | [] => .error (.missingHeader what)
  | l :: rest => .ok (l, rest)

/-- The next `count` lines, each as a row, and the lines behind them. `found` rows of the `expected`
ones came before. -/
def readRows {α : Type} (readRow : Line → Except LoadError α) (expected : Nat) :
    Nat → Nat → List Line → Except LoadError (List α × List Line)
  | _, 0, ls => .ok ([], ls)
  | found, _ + 1, [] => .error (.lineCount expected found)
  | found, count + 1, l :: rest => do
    let row ← readRow l
    let (rows, behind) ← readRows readRow expected (found + 1) count rest
    return (row :: rows, behind)

/-- A laser id as a channel counted from zero. -/
def laserId (lasers line : Nat) (text : List Char) : Except LoadError Nat := do
  let id ← readField integer? line text
  if id < 1 ∨ (lasers : Int) < id then throw (.laserId line id)
  return id.toNat - 1

end Text

end Lidar
