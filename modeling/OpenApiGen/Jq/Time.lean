import OpenApiGen.Jq.Coerce
import OpenApiGen.Jq.Math
import OpenApiGen.Calendar.Write
import OpenApiGen.Calendar.Read
/-!
The date built-ins: moments as seconds since 1970-01-01 in universal time, as broken-down time,
and as text.
-/

namespace OpenApiGen.Jq

namespace Time

open Calendar

def fail {α : Type} (message : String) : Except Exn α := .error (.error (JqError.text message))

def lift {α : Type} (r : Except JqError α) : Except Exn α := r.mapError .error

/-- The moment some seconds after 1970-01-01: an integer counts whole seconds, a double is cut to
microseconds toward zero. Counting an integer in microseconds can overflow the word. -/
def epochMoment (v : Value) : Except Exn Moment := do
  let micros ← match v with
    | .int i =>
      if Value.fitsWord (i * 1000000) then pure (i * 1000000)
      else throw (.failure "attempt to multiply with overflow")
    | v => do pure (Builtin.floatToWord ((← lift (Builtin.asFloat v)) * 1000000.0))
  match Moment.ofMicros? micros with
  | some m => pure m
  | none => fail ("cannot parse " ++ v.render ++ " as epoch timestamp")

def brokenDown (m : Moment) : Value :=
  let d := m.date
  let second : Value :=
    if m.nanos > 0 then .float (Float.ofNat m.second + Float.ofNat (m.nanos / 1000) / 1000000.0)
    else .int m.second
  .arr [.int d.year, .int (Int.ofNat d.month - 1), .int d.day, .int m.hour, .int m.minute, second,
    .int d.weekdayFromSunday, .int (Int.ofNat d.ordinal - 1)]

def unsigned32? (v : Value) : Option Nat :=
  match v with
  | .int i => if 0 ≤ i && i ≤ 4294967295 then some i.toNat else none
  | _ => none

/-- The moment of broken-down time: the first six elements, all integers but the seconds, which
may have a fraction. Nothing if they are missing or name no moment; the month is counted from 0,
and moving it to count from 1 can overflow the word. -/
def moment? (items : List Value) : Except Exn (Option Moment) :=
  match items with
  | year :: month :: day :: hour :: minute :: seconds :: _ =>
    match Builtin.asFloat seconds, year with
    | .ok secs, .int y =>
      if !fits32 y then pure none
      else match month with
        | .int mo =>
          if mo + 1 > Value.intMax then throw (.failure "attempt to add with overflow")
          else
            match unsigned32? (.int (mo + 1)), unsigned32? day, unsigned32? hour,
                unsigned32? minute with
            | some mo, some d, some h, some mi =>
              let whole := min (max (Builtin.floatToWord secs) 0) 4294967295
              match Moment.ofParts? { year := y, month := mo, day := d } h mi whole.toNat 0 with
              | some m =>
                let fraction := Builtin.floatToWord ((secs - Math.trunc secs) * 1000000.0)
                pure (Moment.ofMicros? (m.timestampMicros + fraction))
              | none => pure none
            | _, _, _, _ => pure none
        | _ => pure none
    | _, _ => pure none
  | _ => pure none

/-- The text of a moment by a format, with the name of its zone. -/
def formatted (m : Moment) (zone fmt : String) : Except Exn Value :=
  match m.format zone fmt with
  | some s => pure (.str s)
  | none => throw (.failure "a Display implementation returned an error unexpectedly: Error")

/-- Seconds since 1970 as a timestamp of ISO 8601: whole seconds for an integer, microseconds
for a double. -/
def toIso (v : Value) : Except Exn Value := do
  let cannot := "cannot format " ++ v.render ++ " as ISO-8601 timestamp"
  match v with
  | .int i =>
    match Moment.ofTimestamp? i 0 with
    | some m => formatted m "UTC" "%Y-%m-%dT%H:%M:%SZ"
    | none => fail cannot
  | v =>
    let x ← lift (Builtin.asFloat v)
    match Moment.ofMicros? (Builtin.floatToWord (x * 1000000.0)) with
    | some m => formatted m "UTC" "%Y-%m-%dT%H:%M:%S%.6fZ"
    | none => fail cannot

/-- A timestamp of RFC 3339 as seconds since 1970: an integer, or a double with microseconds if
the text has a fraction. -/
def fromIso (v : Value) : Except Exn Value := do
  let s ← lift (Builtin.asString v)
  match Moment.ofRfc3339 s with
  | .ok m =>
    if s.toList.contains '.' then pure (.float (Float.ofInt m.timestampMicros / 1000000.0))
    else pure (.int m.timestamp)
  | .error e => fail ("cannot parse " ++ s ++ " as ISO-8601 timestamp: " ++ e.message)

/-- Broken-down time, or seconds since 1970, written by a format in a zone of the given name. -/
def strftime (zone : String) (v fmt : Value) : Except Exn Value := do
  let fmt ← lift (Builtin.asString fmt)
  let m ← match v with
    | .arr items =>
      match ← moment? items with
      | some m => pure m
      | none => fail "strftime/1 requires parsed datetime inputs"
    | v => epochMoment v
  formatted m zone fmt

def mktime (v : Value) : Except Exn Value := do
  let items ← lift (Builtin.asArray v)
  match ← moment? items with
  | some m => pure (.int m.timestamp)
  | none => fail "mktime requires array of 6 numbers"

def strptime (v fmt : Value) : Except Exn Value := do
  let fmt ← lift (Builtin.asString fmt)
  let s ← lift (Builtin.asString v)
  match Moment.parse s fmt with
  | .ok m => pure (brokenDown m)
  | .error e => fail ("cannot parse " ++ s ++ " using " ++ fmt ++ ": " ++ e.message)

/-- Applies a date built-in to an input and the values of its arguments, if it is one. -/
def dispatch (name : String) (input : Value) (args : List Value) : Option (Except Exn Value) :=
  match name, args with
  | "todateiso8601", [] => some (toIso input)
  | "fromdateiso8601", [] => some (fromIso input)
  | "gmtime", [] | "localtime", [] => some (brokenDown <$> epochMoment input)
  | "mktime", [] => some (mktime input)
  | "strftime", [fmt] => some (strftime "UTC" input fmt)
  | "strflocaltime", [fmt] => some (strftime "+00:00" input fmt)
  | "strptime", [fmt] => some (strptime input fmt)
  | _, _ => none

end Time

end OpenApiGen.Jq
