import OpenApiGen.Text.Blank
/-!
Format strings of dates and times: text with directives that start with a percent sign.
-/

namespace OpenApiGen.Calendar

/-- A number that a moment has and a format can write or read. -/
inductive Field where
  | year
  | century
  | yearOfCentury
  | isoYear
  | isoCentury
  | isoYearOfCentury
  | month
  | day
  | weekFromSunday
  | weekFromMonday
  | isoWeek
  | weekdayFromSunday
  | weekdayFromMonday
  | ordinal
  | hour
  | hour12
  | minute
  | second
  | nanosecond
  | timestamp
  deriving BEq, Repr, Inhabited

/-- How a number is filled up to the width of its field. -/
inductive Pad where
  | none
  | zero
  | space
  deriving BEq, Repr, Inhabited

/-- How a time zone offset is written: hours and minutes (`+0100`), the same with a colon
(`+01:00`), with seconds (`+01:00:00`), hours only (`+01`), or the lenient form that reading also
accepts as `Z` or without minutes. -/
inductive OffsetStyle where
  | plain
  | colon
  | seconds
  | hours
  | lenient
  deriving BEq, Repr, Inhabited

/-- A piece of a format string. -/
inductive Piece where
  | literal (text : String)
  | blank (text : String)
  | number (field : Field) (pad : Pad)
  | monthName (long : Bool)
  | weekdayName (long : Bool)
  | meridiem (upper : Bool)
  /-- The fraction of the second after a point, with 3, 6 or 9 digits as it needs, or nothing. -/
  | fraction
  /-- The fraction of the second with a fixed number of digits, after a point if asked. -/
  | fractionDigits (digits : Nat) (point : Bool)
  | zoneName
  | zoneOffset (style : OffsetStyle)
  | rfc3339
  | invalid
  deriving BEq, Repr, Inhabited

namespace Field

/-- The width a field is padded to when written, and the most digits read for it. -/
def width : Field → Nat
  | .year | .isoYear => 4
  | .weekdayFromSunday | .weekdayFromMonday | .timestamp => 1
  | .ordinal => 3
  | .nanosecond => 9
  | _ => 2

end Field

namespace Piece

def zeros (f : Field) : Piece := .number f .zero

def isoDate : List Piece := [zeros .year, .literal "-", zeros .month, .literal "-", zeros .day]

def clock : List Piece := [zeros .hour, .literal ":", zeros .minute, .literal ":", zeros .second]

def ofLetter : Char → List Piece
  | 'A' => [.weekdayName true]
  | 'B' => [.monthName true]
  | 'C' => [zeros .century]
  | 'D' => [zeros .month, .literal "/", zeros .day, .literal "/", zeros .yearOfCentury]
  | 'F' => isoDate
  | 'G' => [zeros .isoYear]
  | 'H' => [zeros .hour]
  | 'I' => [zeros .hour12]
  | 'M' => [zeros .minute]
  | 'P' => [.meridiem false]
  | 'R' => [zeros .hour, .literal ":", zeros .minute]
  | 'S' => [zeros .second]
  | 'T' => clock
  | 'U' => [zeros .weekFromSunday]
  | 'V' => [zeros .isoWeek]
  | 'W' => [zeros .weekFromMonday]
  | 'X' => clock
  | 'Y' => [zeros .year]
  | 'Z' => [.zoneName]
  | 'a' => [.weekdayName false]
  | 'b' | 'h' => [.monthName false]
  | 'c' =>
    [.weekdayName false, .blank " ", .monthName false, .blank " ", .number .day .space, .blank " "] ++
      clock ++ [.blank " ", zeros .year]
  | 'd' => [zeros .day]
  | 'e' => [.number .day .space]
  | 'f' => [zeros .nanosecond]
  | 'g' => [zeros .isoYearOfCentury]
  | 'j' => [zeros .ordinal]
  | 'k' => [.number .hour .space]
  | 'l' => [.number .hour12 .space]
  | 'm' => [zeros .month]
  | 'n' => [.blank "\n"]
  | 'p' => [.meridiem true]
  | 'r' => [zeros .hour12, .literal ":", zeros .minute, .literal ":", zeros .second, .blank " ",
      .meridiem true]
  | 's' => [.number .timestamp .none]
  | 't' => [.blank "\t"]
  | 'u' => [.number .weekdayFromMonday .none]
  | 'v' => [.number .day .space, .literal "-", .monthName false, .literal "-", zeros .year]
  | 'w' => [.number .weekdayFromSunday .none]
  | 'x' => [zeros .month, .literal "/", zeros .day, .literal "/", zeros .yearOfCentury]
  | 'y' => [zeros .yearOfCentury]
  | 'z' => [.zoneOffset .plain]
  | '+' => [.rfc3339]
  | '%' => [.literal "%"]
  | _ => [.invalid]

/-- The pieces of a directive after its percent sign and flag, with what follows it. -/
def ofDirective : List Char → List Piece × List Char
  | ':' :: ':' :: ':' :: 'z' :: rest => ([.zoneOffset .hours], rest)
  | ':' :: ':' :: 'z' :: rest => ([.zoneOffset .seconds], rest)
  | ':' :: 'z' :: rest => ([.zoneOffset .colon], rest)
  | ':' :: rest => ([.invalid], rest)
  | '.' :: 'f' :: rest => ([.fraction], rest)
  | '.' :: d :: 'f' :: rest =>
    if d == '3' || d == '6' || d == '9' then ([.fractionDigits (d.toNat - 48) true], rest)
    else ([.invalid], rest)
  | '.' :: d :: rest => ([.invalid], if d == '3' || d == '6' || d == '9' then rest.drop 1 else rest)
  | '.' :: [] => ([.invalid], [])
  | d :: rest =>
    if d == '3' || d == '6' || d == '9' then
      match rest with
      | 'f' :: rest => ([.fractionDigits (d.toNat - 48) false], rest)
      | _ => ([.invalid], rest.drop 1)
    else (ofLetter d, rest)
  | [] => ([.invalid], [])

def padFlag : Char → Option Pad
  | '-' => some .none
  | '0' => some .zero
  | '_' => some .space
  | _ => none

/-- The pieces of a directive after its percent sign, flags applied, with what follows it. -/
def ofPercent : List Char → List Piece × List Char
  | [] => ([.invalid], [])
  | c :: rest =>
    match padFlag c with
    | some pad =>
      match rest with
      | [] => ([.invalid], [])
      | _ =>
        match ofDirective rest with
        | ([.number f _], rest) => ([.number f pad], rest)
        | (_, rest) => ([.invalid], rest)
    | none =>
      if c == '#' then
        match rest with
        | 'z' :: rest => ([.zoneOffset .lenient], rest)
        | [] => ([.invalid], [])
        | _ :: rest => ([.invalid], rest)
      else ofDirective (c :: rest)

def endsLiteral (c : Char) : Bool := c == '%' || Text.isWhiteSpace c

/-- The pieces of a format string, reading at most as many directives as the fuel. -/
def ofCharsFuel : Nat → List Char → List Piece
  | 0, _ => []
  | _ + 1, [] => []
  | fuel + 1, '%' :: rest =>
    let (pieces, rest) := ofPercent rest
    pieces ++ ofCharsFuel fuel rest
  | fuel + 1, c :: rest =>
    if Text.isWhiteSpace c then
      let run := (c :: rest).takeWhile Text.isWhiteSpace
      .blank (String.ofList run) :: ofCharsFuel fuel ((c :: rest).drop run.length)
    else
      let run := (c :: rest).takeWhile (fun c => !endsLiteral c)
      .literal (String.ofList run) :: ofCharsFuel fuel ((c :: rest).drop run.length)

/-- The pieces of a format string. Every step takes at least one character, so the length of the
string is enough fuel. -/
def ofFormat (format : String) : List Piece := ofCharsFuel (format.length + 1) format.toList

end Piece

end OpenApiGen.Calendar
