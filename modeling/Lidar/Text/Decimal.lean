import Lidar.Text.Integer

namespace Lidar.Text

/-- A number as it is written: `digits · 10 ^ exponent`, infinite, or not a number. Of a very long
number `digits` holds only what matters for rounding. -/
inductive Decimal where
  | finite (negative : Bool) (digits : Nat) (exponent : Int)
  | infinite (negative : Bool)
  | notANumber
deriving DecidableEq

namespace Decimal

/-- How many digits of a mantissa are read one by one. A number of double precision, and one
halfway between two neighbours, has at most 767 digits, so that all digits after this many count
only as zero or not zero. -/
def keptDigits : Nat := 800

/-- The number that digits stand for, after `n`. -/
def valueAfter (n : Nat) (s : List Char) : Nat :=
  s.foldl (fun m c => 10 * m + (c.toNat - '0'.toNat)) n

/-- The number that the digits of a mantissa stand for, and the count of those left out at the end.
What is left out leaves a final digit one if it is not zero. -/
def mantissa (s : List Char) : Nat × Nat :=
  let significant := s.dropWhile (· = '0')
  let kept := valueAfter 0 (significant.take keptDigits)
  let rest := significant.drop keptDigits
  if rest.any (· ≠ '0') then (10 * kept + 1, rest.length - 1) else (kept, rest.length)

/-- One more digit of an exponent. From 65536 on, the digits that follow change nothing: short of
tens of thousands of zeros that outweigh it, such an exponent is beyond every floating-point
number. -/
def exponentDigit? (n : Nat) (c : Char) : Option Nat :=
  (digit? c).map fun d => if n < 65536 then 10 * n + d else n

def exponentDigits? (s : List Char) : Option Nat :=
  if s.isEmpty then none else s.foldlM exponentDigit? 0

/-- The exponent after the mantissa: nothing, or `e` with an optional sign and digits. -/
def exponent? : List Char → Option Int
  | [] => some 0
  | e :: r =>
    if e = 'e' ∨ e = 'E' then
      match r with
      | '-' :: r => (exponentDigits? r).map fun n => -(n : Int)
      | '+' :: r => (exponentDigits? r).map Int.ofNat
      | r => (exponentDigits? r).map Int.ofNat
    else none

/-- Digits with at most one point among them and an optional exponent; at least one digit
stands before or after the point. -/
def unsigned? (negative : Bool) (s : List Char) : Option Decimal :=
  let whole := s.takeWhile Char.isDigit
  let afterWhole := s.dropWhile Char.isDigit
  let tail := match afterWhole with
    | '.' :: r => r
    | _ => []
  let part := tail.takeWhile Char.isDigit
  let rest := match afterWhole with
    | '.' :: r => r.dropWhile Char.isDigit
    | r => r
  if whole.isEmpty && part.isEmpty then none
  else do
    let (digits, leftOut) := mantissa (whole ++ part)
    let e ← exponent? rest
    return .finite negative digits (e - part.length + leftOut)

/-- The words for values that have no digits, in any case of letters. -/
def word? (negative : Bool) (s : List Char) : Option Decimal :=
  let w := String.ofList (s.map Char.toLower)
  if w = "inf" ∨ w = "infinity" then some (.infinite negative)
  else if w = "nan" then some .notANumber
  else none

def read? (s : List Char) : Option Decimal :=
  let (negative, body) := match s with
    | '-' :: r => (true, r)
    | '+' :: r => (false, r)
    | r => (false, r)
  (unsigned? negative body).or (word? negative body)

def toFloat : Decimal → Float
  | finite negative digits e =>
    let x := Float.ofScientific digits (decide (e < 0)) e.natAbs
    if negative then -x else x
  | infinite negative => Float.ofBits (if negative then 0xFFF0000000000000 else 0x7FF0000000000000)
  | notANumber => Float.ofBits 0x7FF8000000000000

def toFloat32 : Decimal → Float32
  | finite negative digits e =>
    let x := Float32.ofScientific digits (decide (e < 0)) e.natAbs
    if negative then -x else x
  | infinite negative => Float32.ofBits (if negative then 0xFF800000 else 0x7F800000)
  | notANumber => Float32.ofBits 0x7FC00000

end Decimal

end Lidar.Text
