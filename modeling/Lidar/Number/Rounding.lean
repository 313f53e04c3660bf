import Lidar.Number.WordRange

namespace Lidar

/-- What a floating-point number stands for: `mantissa · 2 ^ exponent`, infinite, or no number. -/
inductive Binary where
  | finite (negative : Bool) (mantissa : Nat) (exponent : Int)
  | infinite (negative : Bool)
  | notANumber
deriving DecidableEq

namespace Binary

/-- The value of a bit pattern with `e` exponent bits above `m` mantissa bits. -/
def ofBits (e m bits : Nat) : Binary :=
  let fraction := bits % (1 <<< m)
  let exponent := (bits >>> m) % (1 <<< e)
  let negative := (bits >>> (m + e)) % 2 = 1
  let bias : Nat := 1 <<< (e - 1)
  let lowest : Int := 2 - bias - m
  if exponent + 1 = 1 <<< e then
    if fraction = 0 then .infinite negative else .notANumber
  else if exponent = 0 then .finite negative fraction lowest
  else .finite negative (1 <<< m + fraction) (lowest + exponent - 1)

def ofFloat (x : Float) : Binary := ofBits 11 52 x.toBits.toNat

def ofFloat32 (x : Float32) : Binary := ofBits 8 23 x.toBits.toNat

/-- The number `mantissa · 2 ^ exponent` rounded to the nearest whole number, a half upwards. -/
def nearestNat (mantissa : Nat) : Int → Nat
  | .ofNat k => mantissa <<< k
  | .negSucc k => (mantissa >>> k + 1) / 2

/-- The nearest whole number of a range. A half goes away from zero, infinities and values beyond
the range to its ends, and what is no number to zero. -/
def nearest (r : WordRange) : Binary → Int
  | .finite negative mantissa exponent =>
    let n : Int := nearestNat mantissa exponent
    r.clamp (if negative then -n else n)
  | .infinite negative => if negative then r.least else r.greatest
  | .notANumber => 0

end Binary

def nearestInt32 (x : Float) : Int := (Binary.ofFloat x).nearest .int32

def nearestInt64 (x : Float) : Int := (Binary.ofFloat x).nearest .int64

def nearestUInt32 (x : Float32) : Int := (Binary.ofFloat32 x).nearest .uint32

/-- The power of two with an exponent from -1022 to 1023. -/
def twoPower (e : Int) : Float := Float.ofBits (UInt64.ofNat ((e + 1023).toNat <<< 52))

/-- The same number in double precision. Every mantissa of single precision fits, so the product
is exact. -/
def widen (x : Float32) : Float :=
  match Binary.ofFloat32 x with
  | .finite negative mantissa exponent =>
    let y := Float.ofNat mantissa * twoPower exponent
    if negative then -y else y
  | .infinite negative => Float.ofBits (if negative then 0xFFF0000000000000 else 0x7FF0000000000000)
  | .notANumber => Float.ofBits 0x7FF8000000000000

end Lidar
