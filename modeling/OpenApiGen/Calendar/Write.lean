import OpenApiGen.Calendar.Date
import OpenApiGen.Calendar.Directive
/-!
Writing a moment in universal time by a format string.
-/

namespace OpenApiGen.Calendar

def monthNames : List String :=
  ["January", "February", "March", "April", "May", "June", "July", "August", "September",
    "October", "November", "December"]

def weekdayNames : List String :=
  ["Sunday", "Monday", "Tuesday", "Wednesday", "Thursday", "Friday", "Saturday"]

/-- A name of a list counted from 0, in full or cut to three letters. -/
def nameAt (names : List String) (i : Nat) (long : Bool) : String :=
  let name := names.getD i ""
  if long then name else String.ofList (name.toList.take 3)

/-- A number written to a width: a sign if negative (or always, if asked), then the digits, filled
up to the width with zeros after the sign or spaces before it. -/
def padded (v : Int) (width : Nat) (pad : Pad) (plus : Bool) : String :=
  let sign := if v < 0 then "-" else if plus then "+" else ""
  let body := toString v.natAbs
  let fill := width - sign.length - body.length
  match pad with
  | .none => sign ++ body
  | .zero => sign ++ String.ofList (List.replicate fill '0') ++ body
  | .space => String.ofList (List.replicate fill ' ') ++ sign ++ body

/-- Digits of a natural number, with zeros in front up to a width. -/
def zeroPadded (n width : Nat) : String := padded n width .zero false

namespace Moment

def field (m : Moment) : Field → Int
  | .year => m.date.year
  | .century => m.date.year / 100
  | .yearOfCentury => m.date.year % 100
  | .isoYear => m.date.isoWeek.1
  | .isoCentury => m.date.isoWeek.1 / 100
  | .isoYearOfCentury => m.date.isoWeek.1 % 100
  | .month => m.date.month
  | .day => m.date.day
  | .weekFromSunday => m.date.weeksFrom false
  | .weekFromMonday => m.date.weeksFrom true
  | .isoWeek => m.date.isoWeek.2
  | .weekdayFromSunday => m.date.weekdayFromSunday
  | .weekdayFromMonday => m.date.weekdayFromMonday + 1
  | .ordinal => m.date.ordinal
  | .hour => m.hour
  | .hour12 => m.hour12
  | .minute => m.minute
  | .second => m.second + m.nanos / 1000000000
  | .nanosecond => m.nanos % 1000000000
  | .timestamp => m.timestamp

/-- A number field written with its padding; years outside 0 to 9999 carry their sign. -/
def writeNumber (m : Moment) (f : Field) (pad : Pad) : String :=
  let v := m.field f
  let yearLike := f == .year || f == .isoYear
  if yearLike && (v < 0 || v > 9999) then padded v (f.width + 1) pad true
  else padded v f.width pad false

/-- The fraction of the second with 3, 6 or 9 digits, the fewest that hold it exactly, after a
point; nothing for a whole second. -/
def shortFraction (m : Moment) : String :=
  let nano := m.nanos % 1000000000
  if nano == 0 then ""
  else if nano % 1000000 == 0 then "." ++ zeroPadded (nano / 1000000) 3
  else if nano % 1000 == 0 then "." ++ zeroPadded (nano / 1000) 6
  else "." ++ zeroPadded nano 9

/-- The moment as a timestamp of RFC 3339 in universal time: the date (a year outside 0 to 9999
with its sign), the time with a fraction as short as holds it, and the offset `+00:00`. -/
def rfc3339 (m : Moment) : String :=
  let d := m.date
  let year := if 0 ≤ d.year && d.year ≤ 9999 then zeroPadded d.year.toNat 4
    else padded d.year 5 .zero true
  let leap := m.nanos / 1000000000
  year ++ "-" ++ zeroPadded d.month 2 ++ "-" ++ zeroPadded d.day 2 ++ "T" ++ zeroPadded m.hour 2 ++
    ":" ++ zeroPadded m.minute 2 ++ ":" ++ zeroPadded (m.second + leap) 2 ++ m.shortFraction ++
    "+00:00"

def zeroOffset : OffsetStyle → String
  | .plain => "+0000"
  | .colon | .lenient => "+00:00"
  | .seconds => "+00:00:00"
  | .hours => "+00"

/-- A piece of a format written for a moment, with the zone's name; nothing for an invalid
piece. -/
def writePiece (m : Moment) (zone : String) : Piece → Option String
  | .literal t | .blank t => some t
  | .number f pad => some (m.writeNumber f pad)
  | .monthName long => some (nameAt monthNames (m.date.month - 1) long)
  | .weekdayName long => some (nameAt weekdayNames m.date.weekdayFromSunday long)
  | .meridiem upper =>
    some (if m.hour < 12 then (if upper then "AM" else "am") else (if upper then "PM" else "pm"))
  | .fraction => some m.shortFraction
  | .fractionDigits n point =>
    let nano := m.nanos % 1000000000
    some ((if point then "." else "") ++ zeroPadded (nano / Nat.pow 10 (9 - n)) n)
  | .zoneName => some zone
  | .zoneOffset style => some (zeroOffset style)
  | .rfc3339 => some m.rfc3339
  | .invalid => none

/-- A moment written by a format string, with the zone's name; nothing if the format has an
invalid piece. -/
def format (m : Moment) (zone : String) (fmt : String) : Option String :=
  (Piece.ofFormat fmt).foldlM (fun acc p => (acc ++ ·) <$> m.writePiece zone p) ""

end Moment

end OpenApiGen.Calendar
