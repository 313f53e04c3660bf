import Lidar.Bytes

namespace Lidar

/-- A date and a time of day in Coordinated Universal Time. Assumed of the conversion of dates: the
calendar is the Gregorian one, extended to all years, and every day has 86400 seconds. -/
structure CivilTime where
  year : Nat
  month : Nat
  day : Nat
  hour : Nat
  minute : Nat
  second : Nat
deriving DecidableEq

def isLeapYear (year : Nat) : Bool :=
  year % 4 = 0 ∧ (year % 100 ≠ 0 ∨ year % 400 = 0)

/-- The days of a month of the Gregorian calendar, zero for a month that does not exist. -/
def daysInMonth (year month : Nat) : Nat :=
  match month with
  | 2 => if isLeapYear year then 29 else 28
  | 4 | 6 | 9 | 11 => 30
  | 1 | 3 | 5 | 7 | 8 | 10 | 12 => 31
  | _ => 0

/-- The days of a year before the first of a month. -/
def daysBeforeMonth (year : Nat) : Nat → Nat
  | 0 => 0
  | month + 1 => daysBeforeMonth year month + daysInMonth year month

/-- The days from the first of January of the year 1 to that of another year. -/
def daysBeforeYear (year : Nat) : Nat :=
  let y := year - 1
  365 * y + y / 4 - y / 100 + y / 400

namespace CivilTime

/-- Whether the assumed calendar and its clock have this time. There are no leap seconds. -/
def isReal (t : CivilTime) : Bool :=
  1 ≤ t.day ∧ t.day ≤ daysInMonth t.year t.month ∧ t.hour < 24 ∧ t.minute < 60 ∧ t.second < 60

/-- Days since the first of January 1970. -/
def unixDays (t : CivilTime) : Int :=
  (daysBeforeYear t.year + daysBeforeMonth t.year t.month + (t.day - 1) : Nat)
    - (daysBeforeYear 1970 : Nat)

/-- Seconds since the start of the year 1970, by the assumed length of a day. -/
def unixSeconds (t : CivilTime) : Int :=
  t.unixDays * 86400 + (t.hour * 3600 + t.minute * 60 + t.second : Nat)

end CivilTime

/-- The calendar reading of the six bytes: years since 1900, of which 100 are taken off
from 200 on, then month, day, hour, minute and second. -/
def civilTimeOf (utc : Vector UInt8 6) : CivilTime :=
  let years := utc[0].toNat
  { year := 1900 + (if years < 200 then years else years - 100)
    month := utc[1].toNat
    day := utc[2].toNat
    hour := utc[3].toNat
    minute := utc[4].toNat
    second := utc[5].toNat }

/-- Microseconds since the start of the year 1970. The six bytes are a calendar date if the first
is set, and otherwise end in the seconds as a big-endian word; a date that does not exist gives
no time. -/
def sensorTime? (utc : Vector UInt8 6) (microseconds : UInt32) : Option Int :=
  let seconds :=
    if utc[0] ≠ 0 then
      let t := civilTimeOf utc
      if t.isReal then some t.unixSeconds else none
    else some (word32 utc[5] utc[4] utc[3] utc[2]).toNat
  seconds.map fun s : Int => s * 1000000 + microseconds.toNat

end Lidar
