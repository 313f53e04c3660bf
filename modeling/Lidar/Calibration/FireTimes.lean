import Lidar.Calibration.ChannelConfig
import Lidar.Text.Decimal
import Lidar.Number.Rounding

namespace Lidar

/-- The firing time of each laser in each loop, in microseconds. -/
structure FireTimes where
  loops : Array (Array Float32)

namespace FireTimes

/-- A pair of a line: the channel counted from zero, and its time. -/
structure Entry where
  channel : Nat
  time : Float32

def readPairs (line : Nat) : List (List Char) → Except LoadError (List Entry)
  | id :: time :: rest => do
    let channel ← Text.laserId laserLimit line id
    let t ← Text.readField Text.Decimal.read? line time
    let es ← readPairs line rest
    return { channel, time := t.toFloat32 } :: es
  | _ => .ok []

def readRow (loops : Nat) (l : Text.Line) : Except LoadError (List Entry) := do
  let fs := Text.fields l.text
  if fs.length ≠ 2 * loops then throw (.field l.number l.text)
  readPairs l.number fs

def Entry.store (times : Array Float32) (e : Entry) : Array Float32 :=
  times.setIfInBounds e.channel e.time

/-- The times of one loop from its pairs in line order; a later pair of the same laser wins. -/
def loopOf (entries : List Entry) : Array Float32 :=
  entries.foldl Entry.store (Array.replicate laserLimit 0)

/-- The table of `loops` loops from its lines. -/
def ofRows (loops : Nat) (rows : List (List Entry)) : FireTimes :=
  { loops := Array.ofFn fun l : Fin loops => loopOf (rows.filterMap (·[l.val]?)) }

/-- The table in a text: a line of version, `Loop num` with the number of loops in the fourth field,
a line of column names, and a line for each of 128 lasers with a pair of laser id and microseconds
per loop. The times are filed under the ids, and what stands behind the last line is ignored. -/
def parse (blob : Bytes) : Except LoadError FireTimes := do
  let text ← Text.ofBlob blob
  let ls := (Text.numbered text).filter (!·.isBlank)
  let (version, ls) ← Text.headerLine .fireTimesVersion ls
  if !Text.isVersionLine version.text then throw .invalidDelimiter
  let (size, ls) ← Text.headerLine .fireTimesLoopCount ls
  let loops ← Text.readField (Text.natural? UInt64.size) size.number
    (Text.fieldAt (Text.fields size.text) 3)
  if loops = 0 ∨ loopLimit < loops then throw (.field size.number size.text)
  let (_, ls) ← Text.headerLine .fireTimesColumns ls
  let (rows, _) ← Text.readRows (readRow loops) laserLimit 0 laserLimit ls
  return ofRows loops rows

def loopCount (f : FireTimes) : Nat := f.loops.size

/-- The firing time of a channel in a loop, zero for what the table does not hold. -/
def get (f : FireTimes) (loop channel : Nat) : Float32 :=
  ((f.loops[loop]?).bind (·[channel]?)).getD 0

/-- Degrees that one revolution per minute sweeps in a microsecond. -/
def degreesPerMicrosecond : Float := 6e-6

/-- The azimuth swept until a channel fires, in thousandths of a degree. -/
def azimuthOffset (f : FireTimes) (loop channel : Nat) (rpm : UInt16) : Int :=
  let degrees := widen (f.get loop channel) * rpm.toFloat * degreesPerMicrosecond
  nearestInt64 (degrees * 1000.0)

end FireTimes

end Lidar
