import OpenApiGen.Calendar.Date
import OpenApiGen.Calendar.Directive
/-!
Reading a moment from text, by a format string or as a timestamp of RFC 3339.
-/

namespace OpenApiGen.Calendar

/-- Why text does not read as a moment. -/
inductive ReadError where
  | outOfRange
  | impossible
  | notEnough
  | invalid
  | tooShort
  | tooLong
  | badFormat
  deriving BEq, Repr, Inhabited

def ReadError.message : ReadError → String
  | .outOfRange => "input is out of range"
  | .impossible => "no possible date and time matching input"
  | .notEnough => "input is not enough for unique date and time"
  | .invalid => "input contains invalid characters"
  | .tooShort => "premature end of input"
  | .tooLong => "trailing input"
  | .badFormat => "bad or unsupported format string"

def wordMax : Int := 9223372036854775807

def fits32 (v : Int) : Bool := -2147483648 ≤ v && v ≤ 2147483647

def byteLength (s : List Char) : Nat := s.foldl (fun n c => n + c.utf8Size) 0

def skipBlanks (s : List Char) : List Char := s.dropWhile Text.isWhiteSpace

def digitValue (ds : List Char) : Int := ds.foldl (fun n c => n * 10 + (c.toNat - 48 : Nat)) 0

/-- A decimal number of at least `lo` and at most `hi` digits at the start of text. -/
def scanNumber (s : List Char) (lo hi : Nat) : Except ReadError (List Char × Int) :=
  if byteLength s < lo then .error .tooShort
  else
    let ds := (s.take hi).takeWhile Char.isDigit
    if ds.length < lo then .error .invalid
    else
      let v := digitValue ds
      if v > wordMax then .error .outOfRange else .ok (s.drop ds.length, v)

/-- A fraction of a second: one digit or more, the first nine counted in nanoseconds and the rest
skipped. -/
def scanFraction (s : List Char) : Except ReadError (List Char × Nat) := do
  let (rest, v) ← scanNumber s 1 9
  let used := s.length - rest.length
  pure (rest.dropWhile Char.isDigit, v.toNat * Nat.pow 10 (9 - used))

/-- A fraction of a second of exactly some digits, counted in nanoseconds. -/
def scanFractionDigits (s : List Char) (n : Nat) : Except ReadError (List Char × Nat) := do
  let (rest, v) ← scanNumber s n n
  pure (rest, v.toNat * Nat.pow 10 (9 - n))

def scanChar (s : List Char) (c : Char) : Except ReadError (List Char) :=
  match s with
  | d :: rest => if d == c then .ok rest else .error .invalid
  | [] => .error .tooShort

def asciiLower (c : Char) : Char := if 'A' ≤ c && c ≤ 'Z' then Char.ofNat (c.toNat + 32) else c

def startsWithFolded (s : List Char) (word : String) : Bool :=
  let w := word.toList
  s.length ≥ w.length && (s.take w.length).map asciiLower == w.map asciiLower

/-- A name from a list at the start of text, by its first three letters and then, if they
follow, the rest of its letters: its index in the list. -/
def scanName (names : List String) (s : List Char) (long : Bool) : Except ReadError (List Char × Nat) :=
  if byteLength s < 3 then .error .tooShort
  else
    match (List.range names.length).find? (fun i => startsWithFolded s (nameTake names i)) with
    | none => .error .invalid
    | some i =>
      let rest := s.drop 3
      let suffix := String.ofList ((names.getD i "").toList.drop 3)
      if long && startsWithFolded rest suffix then .ok (rest.drop suffix.length, i)
      else .ok (rest, i)
where
  /-- The first three letters of a name. -/
  nameTake (names : List String) (i : Nat) : String :=
    String.ofList ((names.getD i "").toList.take 3)

def monthNamesRead : List String :=
  ["january", "february", "march", "april", "may", "june", "july", "august", "september",
    "october", "november", "december"]

def weekdayNamesRead : List String :=
  ["sunday", "monday", "tuesday", "wednesday", "thursday", "friday", "saturday"]

def hoursOf (s : List Char) : Except ReadError Int :=
  if byteLength s < 2 then .error .tooShort
  else
    match s with
    | h1 :: h2 :: _ => if h1.isDigit && h2.isDigit then .ok (digitValue [h1, h2]) else .error .invalid
    | _ => .error .invalid

/-- The two digits of minutes of an offset, below 60; if fewer than two bytes are left, `0` if
they may be missing. -/
def minutesOf (s : List Char) (missingMinutes : Bool) : Except ReadError Int :=
  if byteLength s < 2 then (if missingMinutes then .ok 0 else .error .tooShort)
  else
    match s with
    | m1 :: m2 :: _ =>
      if '0' ≤ m1 && m1 ≤ '5' && m2.isDigit then .ok (digitValue [m1, m2])
      else if '6' ≤ m1 && m1 ≤ '9' && m2.isDigit then .error .outOfRange
      else .error .invalid
    | _ => .error .invalid

/-- A time zone offset in seconds: `Z` if allowed, or a sign, two digits of hours, what
`separator` skips, and two digits of minutes below 60 (which may be missing if allowed). The
sign may also be the minus sign U+2212. -/
def scanOffset (s : List Char) (separator : List Char → Except ReadError (List Char))
    (zulu missingMinutes : Bool) : Except ReadError (List Char × Int) :=
  match s with
  | c :: rest =>
    if zulu && (c == 'Z' || c == 'z') then .ok (rest, 0)
    else
      let sign : Option Bool :=
        if c == '+' then some false else if c == '-' || c == '−' then some true else none
      match sign with
      | none => .error .invalid
      | some negative => do
        let hours ← hoursOf rest
        let s ← separator (rest.drop 2)
        let minutes ← minutesOf s missingMinutes
        let s ← match s with
          | _ :: _ :: t => pure t
          | [] => pure []
          | _ => throw .tooShort
        let seconds := hours * 3600 + minutes * 60
        pure (s, if negative then -seconds else seconds)
  | [] => .error .tooShort

/-- Skips colons and blanks between the hours and minutes of an offset. -/
def skipColons (s : List Char) : Except ReadError (List Char) :=
  .ok (s.dropWhile fun c => c == ':' || Text.isWhiteSpace c)

/-- The fields read so far. -/
structure Fields where
  year : Option Int := none
  century : Option Int := none
  yearOfCentury : Option Int := none
  isoYear : Option Int := none
  isoCentury : Option Int := none
  isoYearOfCentury : Option Int := none
  month : Option Nat := none
  weekFromSunday : Option Nat := none
  weekFromMonday : Option Nat := none
  isoWeek : Option Nat := none
  /-- The day of the week, counted from Sunday as 0. -/
  weekday : Option Nat := none
  ordinal : Option Nat := none
  day : Option Nat := none
  /-- Whether the hour is after noon. -/
  afternoon : Option Nat := none
  /-- The hour modulo 12. -/
  hourOfHalf : Option Nat := none
  minute : Option Nat := none
  second : Option Nat := none
  nanosecond : Option Nat := none
  timestamp : Option Int := none
  offset : Option Int := none
  deriving Inhabited

def settle {α : Type} [BEq α] (old : Option α) (v : α) : Except ReadError (Option α) :=
  match old with
  | some o => if o == v then .ok (some v) else .error .impossible
  | none => .ok (some v)

def inRange (v : Int) (lo hi : Nat) : Except ReadError Nat :=
  if lo ≤ v && v ≤ hi then .ok v.toNat else .error .outOfRange

namespace Fields

def setHour (p : Fields) (v : Int) : Except ReadError Fields := do
  let h ← inRange v 0 23
  let afternoon ← settle p.afternoon (h / 12)
  let hourOfHalf ← settle p.hourOfHalf (h % 12)
  pure { p with afternoon, hourOfHalf }

/-- The fields with the day of the week, counted from Sunday as 0. -/
def setWeekday (p : Fields) (w : Nat) : Except ReadError Fields := do
  pure { p with weekday := ← settle p.weekday w }

def set (p : Fields) (f : Field) (v : Int) : Except ReadError Fields :=
  match f with
  | .year => if fits32 v then do pure { p with year := ← settle p.year v } else .error .outOfRange
  | .century =>
    if 0 ≤ v && v ≤ 2147483647 then do pure { p with century := ← settle p.century v }
    else .error .outOfRange
  | .yearOfCentury => do
    let v ← inRange v 0 99
    pure { p with yearOfCentury := ← settle p.yearOfCentury (Int.ofNat v) }
  | .isoYear =>
    if fits32 v then do pure { p with isoYear := ← settle p.isoYear v } else .error .outOfRange
  | .isoCentury =>
    if 0 ≤ v && v ≤ 2147483647 then do pure { p with isoCentury := ← settle p.isoCentury v }
    else .error .outOfRange
  | .isoYearOfCentury => do
    let v ← inRange v 0 99
    pure { p with isoYearOfCentury := ← settle p.isoYearOfCentury (Int.ofNat v) }
  | .month => do pure { p with month := ← settle p.month (← inRange v 1 12) }
  | .day => do pure { p with day := ← settle p.day (← inRange v 1 31) }
  | .weekFromSunday => do pure { p with weekFromSunday := ← settle p.weekFromSunday (← inRange v 0 53) }
  | .weekFromMonday => do pure { p with weekFromMonday := ← settle p.weekFromMonday (← inRange v 0 53) }
  | .isoWeek => do pure { p with isoWeek := ← settle p.isoWeek (← inRange v 1 53) }
  | .weekdayFromSunday => do p.setWeekday (← inRange v 0 6)
  | .weekdayFromMonday => do p.setWeekday ((← inRange v 1 7) % 7)
  | .ordinal => do pure { p with ordinal := ← settle p.ordinal (← inRange v 1 366) }
  | .hour => p.setHour v
  | .hour12 => do
    let h ← inRange v 1 12
    pure { p with hourOfHalf := ← settle p.hourOfHalf (h % 12) }
  | .minute => do pure { p with minute := ← settle p.minute (← inRange v 0 59) }
  | .second => do pure { p with second := ← settle p.second (← inRange v 0 60) }
  | .nanosecond => do pure { p with nanosecond := ← settle p.nanosecond (← inRange v 0 999999999) }
  | .timestamp => do pure { p with timestamp := ← settle p.timestamp v }

def setOffset (p : Fields) (v : Int) : Except ReadError Fields :=
  if fits32 v then do pure { p with offset := ← settle p.offset v } else .error .outOfRange

/-- A full year from the year, its century and its year of the century, as far as given; they
must agree, and a year of the century alone means 1970 to 2069. -/
def resolveYear (y q r : Option Int) : Except ReadError (Option Int) :=
  match y, q, r with
  | y, none, none => .ok y
  | some y, q, r =>
    if y < 0 then .error .impossible
    else if q.getD (y / 100) == y / 100 && r.getD (y % 100) == y % 100 then .ok (some y)
    else .error .impossible
  | none, some q, some r =>
    if q < 0 then .error .impossible
    else
      let y := q * 100 + r
      if fits32 y then .ok (some y) else .error .outOfRange
  | none, none, some r => .ok (some (r + if r < 70 then 2000 else 1900))
  | none, some _, none => .error .notEnough

def agrees {α : Type} [BEq α] (given : Option α) (v : α) : Bool := given.all (· == v)

/-- Whether the year, century, year of the century, month and day agree with a date. -/
def agreesCivil (p : Fields) (d : Date) : Bool :=
  agrees p.year d.year &&
    (if d.year ≥ 0 then agrees p.century (d.year / 100) && agrees p.yearOfCentury (d.year % 100)
     else p.century.isNone && p.yearOfCentury.isNone) &&
    agrees p.month d.month && agrees p.day d.day

/-- Whether the ISO year and week and the weekday agree with a date. -/
def agreesIsoWeek (p : Fields) (d : Date) : Bool :=
  let (isoYear, isoWeek) := d.isoWeek
  agrees p.isoYear isoYear &&
    (if isoYear ≥ 0 then agrees p.isoCentury (isoYear / 100) &&
        agrees p.isoYearOfCentury (isoYear % 100)
     else p.isoCentury.isNone && p.isoYearOfCentury.isNone) &&
    agrees p.isoWeek isoWeek && agrees p.weekday d.weekdayFromSunday

/-- Whether the day of the year and the weeks from Sunday and Monday agree with a date. -/
def agreesOrdinal (p : Fields) (d : Date) : Bool :=
  agrees p.ordinal d.ordinal && agrees p.weekFromSunday (d.weeksFrom false) &&
    agrees p.weekFromMonday (d.weeksFrom true)

/-- The date of a weekday in a week of a year, weeks starting on Sunday or Monday. -/
def weekDate (y : Int) (week weekday : Nat) (startsMonday : Bool) : Except ReadError Date := do
  if week > 53 then throw .outOfRange
  let some first := Date.ofOrdinal? y 1 | throw .outOfRange
  let start := if startsMonday then 1 else 0
  let firstWeekStart : Int := 1 + Int.ofNat ((start + 7 - first.weekdayFromSunday) % 7)
  let dayInWeek := (weekday + 7 - start) % 7
  let ordinal := firstWeekStart + (Int.ofNat week - 1) * 7 + dayInWeek
  if ordinal ≤ 0 then throw .impossible
  match Date.ofOrdinal? y ordinal.toNat with
  | some d => pure d
  | none => throw .impossible

/-- The date of a weekday in a week of an ISO year. -/
def isoWeekDate (y : Int) (week weekday : Nat) : Except ReadError Date :=
  if week == 0 || week > Date.isoWeeksIn y then .error .outOfRange
  else
    let fourth := Date.mk y 1 4
    let monday := fourth.toDays - fourth.weekdayFromMonday
    let d := Date.ofDays (monday + (Int.ofNat week - 1) * 7 + (weekday + 6) % 7)
    if d.isValid then .ok d else .error .outOfRange

/-- The date the fields give, checked against the fields it was not made from. -/
def toDate (p : Fields) : Except ReadError Date := do
  let year ← resolveYear p.year p.century p.yearOfCentury
  let isoYear ← resolveYear p.isoYear p.isoCentury p.isoYearOfCentury
  let (verified, d) ← match year, isoYear, p.month, p.day, p.ordinal with
    | some y, _, some m, some d, _ =>
      let d : Date := { year := y, month := m, day := d }
      if d.isValid then pure (p.agreesIsoWeek d && p.agreesOrdinal d, d) else throw .outOfRange
    | some y, _, _, _, some n =>
      match Date.ofOrdinal? y n with
      | some d => pure (p.agreesCivil d && p.agreesIsoWeek d && p.agreesOrdinal d, d)
      | none => throw .outOfRange
    | _, _, _, _, _ =>
      match year, isoYear, p.weekFromSunday, p.weekFromMonday, p.isoWeek, p.weekday with
      | some y, _, some w, _, _, some wd => do
        let d ← weekDate y w wd false
        pure (p.agreesCivil d && p.agreesIsoWeek d && p.agreesOrdinal d, d)
      | some y, _, _, some w, _, some wd => do
        let d ← weekDate y w wd true
        pure (p.agreesCivil d && p.agreesIsoWeek d && p.agreesOrdinal d, d)
      | _, some y, _, _, some w, some wd => do
        let d ← isoWeekDate y w wd
        pure (p.agreesCivil d && p.agreesOrdinal d, d)
      | _, _, _, _, _, _ => throw .notEnough
  if verified then pure d else throw .impossible

/-- The time of day the fields give: hour, minute, second and nanoseconds, a leap second read
as the 59th with an extra 10^9 nanoseconds. -/
def toTime (p : Fields) : Except ReadError (Nat × Nat × Nat × Nat) := do
  let some afternoon := p.afternoon | throw .notEnough
  let some hourOfHalf := p.hourOfHalf | throw .notEnough
  let some minute := p.minute | throw .notEnough
  let (second, leap) := if p.second == some 60 then (59, 1000000000) else (p.second.getD 0, 0)
  let nanos ← match p.nanosecond with
    | some n => if p.second.isSome then pure n else throw .notEnough
    | none => pure 0
  if afternoon > 1 || hourOfHalf > 11 || minute > 59 then throw .outOfRange
  pure (afternoon * 12 + hourOfHalf, minute, second, leap + nanos)

def momentOf (d : Date) (t : Nat × Nat × Nat × Nat) : Moment :=
  let (h, m, s, n) := t
  { days := d.toDays, secondOfDay := h * 3600 + m * 60 + s, nanos := n }

def failsWith {α : Type} (r : Except ReadError α) (e : ReadError) : Bool :=
  match r with
  | .error e' => e' == e
  | .ok _ => false

/-- The local moment the fields give, for a zone that is `offset` seconds ahead of universal
time: from a date and a time, checked against a timestamp if one was read, or else from the
timestamp, checked against the other fields. -/
def toLocal (p : Fields) (offset : Int) : Except ReadError Moment :=
  match p.toDate, p.toTime with
  | .ok d, .ok t =>
    let m := momentOf d t
    let ts := m.timestamp - offset
    match p.timestamp with
    | some given =>
      if given != ts && !(m.nanos ≥ 1000000000 && given == ts + 1) then .error .impossible
      else .ok m
    | none => .ok m
  | date, time =>
    match p.timestamp with
    | none => do
      let _ ← date
      let _ ← time
      throw .notEnough
    | some given =>
      if failsWith date .outOfRange || failsWith time .outOfRange then .error .outOfRange
      else if failsWith date .impossible || failsWith time .impossible then .error .impossible
      else do
        let some base := Moment.ofTimestamp? (given + offset) 0 | throw .outOfRange
        let (base, p) ← if p.second == some 60 then
            if base.second == 59 then pure (base, p)
            else if base.second == 0 then
              match Moment.ofTimestamp? (base.timestamp - 1) 0 with
              | some earlier => pure (earlier, p)
              | none => throw .outOfRange
            else throw .impossible
          else do pure (base, ← p.set .second base.second)
        let p ← p.set .year base.date.year
        let p ← p.set .ordinal base.date.ordinal
        let p ← p.set .hour base.hour
        let p ← p.set .minute base.minute
        let d ← p.toDate
        let t ← p.toTime
        pure (momentOf d t)

end Fields

def scanField (s : List Char) (f : Field) : Except ReadError (List Char × Int) :=
  let s := skipBlanks s
  let signed := f == .year || f == .isoYear
  let wide := f == .timestamp
  match s with
  | '-' :: rest =>
    if signed then do
      let (rest, v) ← scanNumber rest 1 rest.length
      pure (rest, -v)
    else scanNumber s 1 (if wide then s.length else f.width)
  | '+' :: rest =>
    if signed then scanNumber rest 1 rest.length
    else scanNumber s 1 (if wide then s.length else f.width)
  | _ => scanNumber s 1 (if wide then s.length else f.width)

/-- Reads a fixed sequence of pieces without a time zone or a date-time. -/
def readSimple (p : Fields) (s : List Char) : List Piece → Except ReadError (Fields × List Char)
  | [] => .ok (p, s)
  | .literal t :: rest =>
    let w := t.toList
    if byteLength s < byteLength w then .error .tooShort
    else if s.take w.length == w then readSimple p (s.drop w.length) rest
    else .error .invalid
  | .blank _ :: rest => readSimple p (skipBlanks s) rest
  | .number f _ :: rest => do
    let (s, v) ← scanField s f
    readSimple (← p.set f v) s rest
  | .fraction :: rest => do
    match s with
    | '.' :: t =>
      let (s, v) ← scanFraction t
      readSimple (← p.set .nanosecond v) s rest
    | _ => readSimple p s rest
  | _ :: _ => .error .badFormat

/-- Reads a date-time in the form `%Y-%m-%dT%H:%M:%S%.f` followed by an offset, `Z` or `UTC`,
where blanks may stand around the separators. -/
def readRfc3339Relaxed (p : Fields) (s : List Char) : Except ReadError (Fields × List Char) := do
  let (p, s) ← readSimple p s [.number .year .zero, .blank "", .literal "-", .number .month .zero,
    .blank "", .literal "-", .number .day .zero]
  let s ← match s with
    | c :: t => if c == 't' || c == 'T' || c == ' ' then pure t else throw .invalid
    | [] => throw .tooShort
  let (p, s) ← readSimple p s [.number .hour .zero, .blank "", .literal ":",
    .number .minute .zero, .blank "", .literal ":", .number .second .zero, .fraction, .blank ""]
  let s := skipBlanks s
  let (s, offset) ← if byteLength s ≥ 3 && startsWithFolded s "UTC" then pure (s.drop 3, 0)
    else scanOffset s skipColons true false
  pure (← p.setOffset offset, s)

def readPiece (p : Fields) (s : List Char) : Piece → Except ReadError (Fields × List Char)
  | .literal t => readSimple p s [.literal t]
  | .blank t => readSimple p s [.blank t]
  | .number f pad => readSimple p s [.number f pad]
  | .fraction | .fractionDigits _ true => readSimple p s [.fraction]
  | .fractionDigits n false => do
    if byteLength s < n then throw .tooShort
    let (s, v) ← scanFractionDigits s n
    pure (← p.set .nanosecond v, s)
  | .monthName long => do
    let (s, i) ← scanName monthNamesRead s long
    pure (← p.set .month (i + 1), s)
  | .weekdayName long => do
    let (s, i) ← scanName weekdayNamesRead s long
    pure (← p.setWeekday i, s)
  | .meridiem _ =>
    if byteLength s < 2 then .error .tooShort
    else match s with
    | a :: b :: rest =>
      let afternoon := asciiLower a == 'p'
      if (asciiLower a == 'a' || afternoon) && asciiLower b == 'm' then do
        pure ({ p with afternoon := ← settle p.afternoon (if afternoon then 1 else 0) }, rest)
      else .error .invalid
    | _ => .error .invalid
  | .zoneName => .ok (p, s.dropWhile fun c => !Text.isWhiteSpace c)
  | .zoneOffset style => do
    let lenient := style == .lenient
    let (s, offset) ← scanOffset (skipBlanks s) skipColons lenient lenient
    pure (← p.setOffset offset, s)
  | .rfc3339 => readRfc3339Relaxed p s
  | .invalid => .error .badFormat

/-- The fields of a text read by a format string; the text must be used up. -/
def readFields (s : String) (fmt : String) : Except ReadError Fields := do
  let (p, rest) ← (Piece.ofFormat fmt).foldlM (fun (p, s) piece => readPiece p s piece)
    (({} : Fields), s.toList)
  if rest.isEmpty then pure p else throw .tooLong

/-- The moment a text gives by a format string, in the local time it states. -/
def Moment.parse (s : String) (fmt : String) : Except ReadError Moment := do
  (← readFields s fmt).toLocal 0

/-- The fields of a timestamp of RFC 3339: `YYYY-MM-DD`, `T`, `t` or a space, `hh:mm:ss`, a
fraction of any length, and `Z` or an offset `+hh:mm` of less than a day. -/
def readRfc3339 (s : List Char) : Except ReadError (Fields × List Char) := do
  let p : Fields := {}
  let (s, v) ← scanNumber s 4 4
  let p ← p.set .year v
  let s ← scanChar s '-'
  let (s, v) ← scanNumber s 2 2
  let p ← p.set .month v
  let s ← scanChar s '-'
  let (s, v) ← scanNumber s 2 2
  let p ← p.set .day v
  let s ← match s with
    | c :: t => if c == 't' || c == 'T' || c == ' ' then pure t else throw .invalid
    | [] => throw .tooShort
  let (s, v) ← scanNumber s 2 2
  let p ← p.set .hour v
  let s ← scanChar s ':'
  let (s, v) ← scanNumber s 2 2
  let p ← p.set .minute v
  let s ← scanChar s ':'
  let (s, v) ← scanNumber s 2 2
  let p ← p.set .second v
  let (s, p) ← match s with
    | '.' :: t => do
      let (s, v) ← scanFraction t
      pure (s, ← p.set .nanosecond v)
    | _ => pure (s, p)
  let (s, offset) ← scanOffset s (fun s => scanChar s ':') true false
  if offset < -86340 || offset > 86340 then throw .outOfRange
  pure (← p.setOffset offset, s)

def Moment.ofRfc3339 (s : String) : Except ReadError Moment := do
  let (p, rest) ← readRfc3339 s.toList
  if !rest.isEmpty then throw .tooLong
  let offset := p.offset.getD 0
  let m ← p.toLocal offset
  match Moment.ofTimestamp? (m.timestamp - offset) m.nanos with
  | some u => pure u
  | none => throw .outOfRange

end OpenApiGen.Calendar
