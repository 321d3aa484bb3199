/-!
Dates and moments of the proleptic Gregorian calendar, in universal time.
-/

namespace OpenApiGen.Calendar

/-- A civil date: a year, a month from 1 to 12 and a day of the month from 1. -/
structure Date where
  year : Int
  month : Nat
  day : Nat
  deriving BEq, Repr, Inhabited

def minYear : Int := -262143

def maxYear : Int := 262142

def isLeapYear (y : Int) : Bool := y % 4 == 0 && (y % 100 != 0 || y % 400 == 0)

def monthLength (y : Int) (m : Nat) : Nat :=
  match m with
  | 2 => if isLeapYear y then 29 else 28
  | 4 | 6 | 9 | 11 => 30
  | _ => 31

namespace Date

def toDays (d : Date) : Int :=
  let y := if d.month ≤ 2 then d.year - 1 else d.year
  let era := y / 400
  let yearOfEra := y - era * 400
  let shifted : Int := if d.month > 2 then d.month - 3 else d.month + 9
  let dayOfYear := (153 * shifted + 2) / 5 + d.day - 1
  let dayOfEra := yearOfEra * 365 + yearOfEra / 4 - yearOfEra / 100 + dayOfYear
  era * 146097 + dayOfEra - 719468

def ofDays (z : Int) : Date :=
  let z := z + 719468
  let era := z / 146097
  let dayOfEra := z - era * 146097
  let yearOfEra := (dayOfEra - dayOfEra / 1460 + dayOfEra / 36524 - dayOfEra / 146096) / 365
  let dayOfYear := dayOfEra - (365 * yearOfEra + yearOfEra / 4 - yearOfEra / 100)
  let shifted := (5 * dayOfYear + 2) / 153
  let day := dayOfYear - (153 * shifted + 2) / 5 + 1
  let month := if shifted < 10 then shifted + 3 else shifted - 9
  { year := yearOfEra + era * 400 + (if month ≤ 2 then 1 else 0), month := month.toNat,
    day := day.toNat }

def isValid (d : Date) : Bool :=
  minYear ≤ d.year && d.year ≤ maxYear && 1 ≤ d.month && d.month ≤ 12 && 1 ≤ d.day &&
    d.day ≤ monthLength d.year d.month

def weekdayFromSunday (d : Date) : Nat := ((d.toDays + 4) % 7).toNat

def weekdayFromMonday (d : Date) : Nat := (d.weekdayFromSunday + 6) % 7

def ordinal (d : Date) : Nat := (d.toDays - (Date.mk d.year 1 1).toDays + 1).toNat

/-- The date of a day of a year, if the year has that day. -/
def ofOrdinal? (y : Int) (n : Nat) : Option Date :=
  let length := if isLeapYear y then 366 else 365
  if 1 ≤ n && n ≤ length && minYear ≤ y && y ≤ maxYear then
    some (ofDays ((Date.mk y 1 1).toDays + n - 1))
  else none

/-- The number of weeks of a year in the week numbering of ISO 8601: 53 if the year starts on a
Thursday, or is a leap year that starts on a Wednesday. -/
def isoWeeksIn (y : Int) : Nat :=
  let first := (Date.mk y 1 1).weekdayFromMonday
  if first == 3 || (isLeapYear y && first == 2) then 53 else 52

/-- The year and week of a date in the week numbering of ISO 8601, where week 1 holds the year's
first Thursday. -/
def isoWeek (d : Date) : Int × Nat :=
  let week : Int := (Int.ofNat d.ordinal - Int.ofNat d.weekdayFromMonday + 9) / 7
  if week < 1 then (d.year - 1, isoWeeksIn (d.year - 1))
  else if week > isoWeeksIn d.year then (d.year + 1, 1)
  else (d.year, week.toNat)

/-- The week of the year, where week 1 starts on the year's first Sunday (or Monday); the days
before it are in week 0. -/
def weeksFrom (d : Date) (startsMonday : Bool) : Nat :=
  let weekday := if startsMonday then d.weekdayFromMonday else d.weekdayFromSunday
  (d.ordinal + 6 - weekday) / 7

end Date

/-- A moment: days from 1970-01-01, seconds into the day (below 86400), and nanoseconds into the
second (from 10^9 on inside a leap second). -/
structure Moment where
  days : Int
  secondOfDay : Nat
  nanos : Nat
  deriving BEq, Repr, Inhabited

namespace Moment

def minDays : Int := (Date.mk minYear 1 1).toDays

def maxDays : Int := (Date.mk maxYear 12 31).toDays

/-- The moment some seconds after 1970-01-01 00:00:00, with nanoseconds added, if its date is in
range. -/
def ofTimestamp? (seconds : Int) (nanos : Nat) : Option Moment :=
  let days := seconds / 86400
  if minDays ≤ days && days ≤ maxDays then
    some { days, secondOfDay := (seconds % 86400).toNat, nanos }
  else none

/-- The moment some microseconds after 1970-01-01 00:00:00, if its date is in range. -/
def ofMicros? (micros : Int) : Option Moment :=
  ofTimestamp? (micros / 1000000) ((micros % 1000000).toNat * 1000)

/-- The moment of a date and a time of day, if both exist: hours below 24, minutes and seconds
below 60, and nanoseconds below 2·10^9, the second 10^9 only in the 59th second. -/
def ofParts? (d : Date) (hour minute second nanos : Nat) : Option Moment :=
  if d.isValid && hour < 24 && minute < 60 && second < 60 && nanos < 2000000000 &&
      (nanos < 1000000000 || second == 59) then
    some { days := d.toDays, secondOfDay := hour * 3600 + minute * 60 + second, nanos }
  else none

def timestamp (m : Moment) : Int := m.days * 86400 + m.secondOfDay

def timestampMicros (m : Moment) : Int := m.timestamp * 1000000 + m.nanos / 1000

def date (m : Moment) : Date := Date.ofDays m.days

def hour (m : Moment) : Nat := m.secondOfDay / 3600

def minute (m : Moment) : Nat := m.secondOfDay / 60 % 60

def second (m : Moment) : Nat := m.secondOfDay % 60

def hour12 (m : Moment) : Nat := (m.hour + 11) % 12 + 1

end Moment

end OpenApiGen.Calendar
