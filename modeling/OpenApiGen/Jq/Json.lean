import OpenApiGen.Jq.Value
/-!
Reading JSON text into jq values.
-/

namespace OpenApiGen.Jq

/-- Why JSON text could not be read. -/
inductive ReadProblem where
  | expectValue
  | expectCommaOrEnd
  | expectString
  | expectColon
  | expectEof
  | expectDigit
  | control
  | unterminated
  | unknownEscape
  | badHex
  | badChar (code : Nat)
  | lowSurrogate
  | escapeEof
  deriving Inhabited

def ReadProblem.message : ReadProblem → String
  | .expectValue => "value expected"
  | .expectCommaOrEnd => "comma or end of sequence expected"
  | .expectString => "string expected"
  | .expectColon => "colon expected"
  | .expectEof => "end of file expected"
  | .expectDigit => "expected digit"
  | .control => "invalid string control character"
  | .unterminated => "unterminated string"
  | .unknownEscape => "unknown escape sequence"
  | .badHex => "invalid hexadecimal sequence"
  | .badChar n => "invalid character with index " ++ toString n
  | .lowSurrogate => "expected low surrogate"
  | .escapeEof => "unterminated escape sequence"

namespace JsonText

/-- A reader over characters: the result and the characters left, or a problem. -/
abbrev Reader (α : Type) := List Char → Except ReadProblem (α × List Char)

def isBlank (c : Char) : Bool := c == ' ' || c == '\t' || c == '\n' || c == '\r'

def skip (cs : List Char) : List Char := cs.dropWhile isBlank

def hexValue? (c : Char) : Option Nat :=
  if c.isDigit then some (c.toNat - '0'.toNat)
  else if 'a' ≤ c && c ≤ 'f' then some (c.toNat - 'a'.toNat + 10)
  else if 'A' ≤ c && c ≤ 'F' then some (c.toNat - 'A'.toNat + 10)
  else none

def hex4 : Reader Nat
  | a :: b :: c :: d :: rest =>
    match hexValue? a, hexValue? b, hexValue? c, hexValue? d with
    | some w, some x, some y, some z => .ok (((w * 16 + x) * 16 + y) * 16 + z, rest)
    | _, _, _, _ => .error .badHex
  | _ => .error .badHex

def escape : Reader Char
  | [] => .error .escapeEof
  | c :: rest =>
    match c with
    | '"' => .ok ('"', rest)
    | '\\' => .ok ('\\', rest)
    | '/' => .ok ('/', rest)
    | 'b' => .ok (Char.ofNat 8, rest)
    | 'f' => .ok (Char.ofNat 12, rest)
    | 'n' => .ok ('\n', rest)
    | 'r' => .ok ('\r', rest)
    | 't' => .ok ('\t', rest)
    | 'u' => do
      let (hi, rest) ← hex4 rest
      if 0xD800 ≤ hi && hi < 0xDC00 then
        match rest with
        | '\\' :: 'u' :: more => do
          let (lo, rest) ← hex4 more
          if 0xDC00 ≤ lo && lo < 0xE000 then
            .ok (Char.ofNat (0x10000 + (hi - 0xD800) * 0x400 + (lo - 0xDC00)), rest)
          else .error (.badChar lo)
        | _ => .error .lowSurrogate
      else if 0xDC00 ≤ hi && hi < 0xE000 then .error (.badChar hi)
      else .ok (Char.ofNat hi, rest)
    | _ => .error .unknownEscape

def stringBody : Nat → List Char → Reader String
  | 0, _, _ => .error .unterminated
  | fuel + 1, acc, cs =>
    match cs with
    | [] => .error .unterminated
    | '"' :: rest => .ok (String.ofList acc.reverse, rest)
    | '\\' :: rest => do
      let (c, rest) ← escape rest
      stringBody fuel (c :: acc) rest
    | c :: rest =>
      if c.toNat < 0x20 then .error .control else stringBody fuel (c :: acc) rest

def digits1 : Reader (List Char)
  | c :: rest =>
    if c.isDigit then .ok (c :: rest.takeWhile Char.isDigit, rest.dropWhile Char.isDigit)
    else .error .expectDigit
  | [] => .error .expectDigit

/-- The text of a number: sign, integer part (one `0` or digits), fraction, exponent. -/
def numberText : Reader String := fun cs => do
  let (sign, cs) := match cs with
    | '-' :: rest => (['-'], rest)
    | _ => ([], cs)
  let (whole, cs) ← match cs with
    | '0' :: rest => pure (['0'], rest)
    | _ => digits1 cs
  let (frac, cs) ← match cs with
    | '.' :: rest => do
      let (ds, rest) ← digits1 rest
      pure ('.' :: ds, rest)
    | _ => pure ([], cs)
  let (exp, cs) ← match cs with
    | e :: rest =>
      if e == 'e' || e == 'E' then do
        let (s, rest) := match rest with
          | '+' :: r => (['+'], r)
          | '-' :: r => (['-'], r)
          | r => ([], r)
        let (ds, rest) ← digits1 rest
        pure (e :: s ++ ds, rest)
      else pure ([], cs)
    | [] => pure ([], cs)
  return (String.ofList (sign ++ whole ++ frac ++ exp), cs)

def keyword (w : String) (v : Value) : Reader Value := fun cs =>
  if cs.take w.length == w.toList then .ok (v, cs.drop w.length) else .error .expectValue

mutual
def value : Nat → Reader Value
  | 0, _ => .error .expectValue
  | fuel + 1, cs =>
    match skip cs with
    | '[' :: rest =>
      match skip rest with
      | ']' :: rest => .ok (.arr [], rest)
      | _ => items fuel [] rest
    | '{' :: rest =>
      match skip rest with
      | '}' :: rest => .ok (.obj [], rest)
      | _ => fields fuel [] rest
    | '"' :: rest => do
      let (s, rest) ← stringBody (rest.length + 1) [] rest
      pure (.str s, rest)
    | c :: rest =>
      if c == 'n' then keyword "null" .null (c :: rest)
      else if c == 't' then keyword "true" (.bool true) (c :: rest)
      else if c == 'f' then keyword "false" (.bool false) (c :: rest)
      else if c == '-' || c.isDigit then do
        let (text, rest) ← numberText (c :: rest)
        pure (Value.ofNumberText text, rest)
      else .error .expectValue
    | [] => .error .expectValue

def items : Nat → List Value → Reader Value
  | 0, _, _ => .error .expectValue
  | fuel + 1, acc, cs => do
    let (v, rest) ← value fuel cs
    match skip rest with
    | ',' :: rest => items fuel (v :: acc) rest
    | ']' :: rest => .ok (.arr (v :: acc).reverse, rest)
    | _ => .error .expectCommaOrEnd

def fields : Nat → List (String × Value) → Reader Value
  | 0, _, _ => .error .expectString
  | fuel + 1, acc, cs =>
    match skip cs with
    | '"' :: rest => do
      let (k, rest) ← stringBody (rest.length + 1) [] rest
      match skip rest with
      | ':' :: rest => do
        let (v, rest) ← value fuel rest
        let acc := Value.setField acc.reverse k v |>.reverse
        match skip rest with
        | ',' :: rest => fields fuel acc rest
        | '}' :: rest => .ok (.obj acc.reverse, rest)
        | _ => .error .expectCommaOrEnd
      | _ => .error .expectColon
    | _ => .error .expectString
end

end JsonText

def readJson (s : String) : Except ReadProblem Value := do
  let cs := s.toList
  let (v, rest) ← JsonText.value (cs.length + 2) cs
  if (JsonText.skip rest).isEmpty then pure v else throw .expectEof

end OpenApiGen.Jq
