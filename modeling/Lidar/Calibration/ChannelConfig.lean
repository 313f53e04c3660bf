import Lidar.Calibration.LoadError

namespace Lidar

def laserLimit : Nat := 128

def loopLimit : Nat := 4

/-- Which laser fires at each wire position of each loop. -/
structure ChannelConfig where
  major : Nat
  minor : Nat
  laserCount : Nat
  blockCount : Nat
  loopCount : Nat
  /-- The channels of each wire position, one per loop, counted from zero. -/
  rows : Array (Array Nat)
  hash : Option String
deriving DecidableEq

namespace ChannelConfig

def readRow (loops : Nat) (l : Text.Line) : Except LoadError (Array Nat) := do
  let fs := Text.fields l.text
  if fs.length ≠ loops then throw (.field l.number l.text)
  let ids ← fs.mapM (Text.laserId laserLimit l.number)
  return ids.toArray

/-- The table in a text: `EEFF, major, minor`, then `Laser num, lasers, Block num, blocks`, a line
with a column name per loop, a line of laser ids per wire position, an id per loop, and a hash,
which may be missing. Blank lines may stand anywhere. -/
def parse (blob : Bytes) : Except LoadError ChannelConfig := do
  let text ← Text.ofBlob blob
  let ls := (Text.numbered text).filter (!·.isBlank)
  let (version, ls) ← Text.headerLine .configVersion ls
  if !Text.isVersionLine version.text then throw .invalidDelimiter
  let fs := Text.fields version.text
  let major ← Text.readField (Text.natural? UInt8.size) version.number (Text.fieldAt fs 1)
  let minor ← Text.readField (Text.natural? UInt8.size) version.number (Text.fieldAt fs 2)
  let (size, ls) ← Text.headerLine .configSize ls
  let fs := Text.fields size.text
  let laserCount ← Text.readField (Text.natural? UInt64.size) size.number (Text.fieldAt fs 1)
  let blockCount ← Text.readField (Text.natural? UInt64.size) size.number (Text.fieldAt fs 3)
  if laserCount = 0 ∨ laserLimit < laserCount then
    throw (.field size.number (Text.fieldAt fs 1))
  if blockCount = 0 then throw (.field size.number (Text.fieldAt fs 3))
  let (columns, ls) ← Text.headerLine .configColumns ls
  let loopCount := (Text.fields columns.text).length
  if loopLimit < loopCount then throw (.field columns.number columns.text)
  let (rows, ls) ← Text.readRows (readRow loopCount) laserCount 0 laserCount ls
  return {
    major, minor, laserCount, blockCount, loopCount
    rows := rows.toArray
    hash := ls.head?.map fun l => String.ofList (Text.trim l.text) }

/-- The channel of a wire position in a loop, if the table covers it. -/
def remap (c : ChannelConfig) (loop position : Nat) : Option Nat := do
  let row ← c.rows[position]?
  row[loop]?

def column (c : ChannelConfig) (loop : Nat) : List Nat :=
  c.rows.toList.filterMap (·[loop]?)

def maxChannel (c : ChannelConfig) : Nat :=
  c.rows.foldl (fun m row => row.foldl max m) 0

end ChannelConfig

end Lidar
