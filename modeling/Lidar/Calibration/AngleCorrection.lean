import Lidar.Calibration.LoadError
import Lidar.Text.Decimal
import Lidar.Number.Rounding
import Lidar.Point

namespace Lidar

/-- The corrected direction of each channel, in thousandths of a degree. -/
structure AngleCorrection where
  channels : Array Direction
deriving DecidableEq

namespace AngleCorrection

def size (c : AngleCorrection) : Nat := c.channels.size

def isDataLine (l : Text.Line) : Bool :=
  (Text.integer? (Text.fieldAt (Text.fields l.text) 0)).isSome

/-- Drops at most `n` header lines. -/
def skipHeader : Nat → List Text.Line → List Text.Line
  | n + 1, l :: rest => if isDataLine l then l :: rest else skipHeader n rest
  | _, ls => ls

/-- An angle in degrees as thousandths of a degree. -/
def readAngle (line : Nat) (text : List Char) : Except LoadError Int := do
  let degrees ← Text.readField Text.Decimal.read? line text
  let x := degrees.toFloat
  if x.isFinite then return nearestInt32 (x * 1000.0)
  else throw (.field line text)

def readLine (maxChannels known : Nat) (l : Text.Line) : Except LoadError Direction := do
  let fs := Text.fields l.text
  let id ← Text.readField Text.integer? l.number (Text.fieldAt fs 0)
  if id ≠ known + 1 ∨ maxChannels < known + 1 then throw (.laserId l.number id)
  let elevation ← readAngle l.number (Text.fieldAt fs 1)
  let azimuth ← readAngle l.number (Text.fieldAt fs 2)
  return { elevation, azimuth }

def readLines (maxChannels : Nat) : Nat → List Text.Line → Except LoadError (List Direction)
  | _, [] => .ok []
  | known, l :: rest => do
    let d ← readLine maxChannels known l
    let ds ← readLines maxChannels (known + 1) rest
    return d :: ds

/-- The table in a text of at most `maxChannels` channels: for each laser a line of id, elevation
and azimuth, with ids from one without gaps and angles in degrees. Up to two lines in front, whose
first field is no number, are headers. Blank lines count as headers in front of the table and are
skipped within it. -/
def parse (blob : Bytes) (maxChannels : Nat) : Except LoadError AngleCorrection := do
  let text ← Text.ofBlob blob
  if Text.allBlank text then throw (.missingHeader .angleCorrection)
  let rows := (skipHeader 2 (Text.numbered text)).filter (!·.isBlank)
  let channels ← readLines maxChannels 0 rows
  if channels.isEmpty then throw .empty
  return { channels := channels.toArray }

end AngleCorrection

end Lidar
