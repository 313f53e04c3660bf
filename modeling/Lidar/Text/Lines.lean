import Lidar.Bytes
import Lidar.Text.Blank

namespace Lidar.Text

/-- The characters of a byte string that is well-formed UTF-8. -/
def ofBytes? (b : Bytes) : Option (List Char) :=
  (ByteArray.mk b).utf8Decode?.map Array.toList

/-- A carriage return before the line feed belongs to the line's end. -/
def dropReturn (s : List Char) : List Char :=
  if s.getLast? = some '\r' then s.dropLast else s

/-- The lines of a text. Each ends with a line feed, the last one may go without;
what is left after the last line feed is a line only if it is not empty. -/
def lines (s : List Char) : List (List Char) :=
  let pieces := s.splitOn '\n'
  pieces.dropLast.map dropReturn ++ pieces.getLast?.toList.filter (!·.isEmpty)

structure Line where
  number : Nat
  text : List Char
deriving DecidableEq

def numbered (s : List Char) : List Line :=
  (lines s).zipIdx 1 |>.map fun (text, number) => { number, text }

def Line.isBlank (l : Line) : Bool := allBlank l.text

/-- The comma separated fields of a line, each without surrounding white space. -/
def fields (line : List Char) : List (List Char) :=
  ((trim line).splitOn ',').map trim

/-- A field by position, empty when the line has fewer fields. -/
def fieldAt (fs : List (List Char)) (i : Nat) : List Char := fs.getD i []

/-- Whether a line starts with the marker `EEFF`, in any case of letters. -/
def isVersionLine (line : List Char) : Bool :=
  ((trimStart line).take 4).map Char.toLower == ['e', 'e', 'f', 'f']

end Lidar.Text
