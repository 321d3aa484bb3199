import OpenApiGen.Json.Value
import OpenApiGen.Decode.Error

/-!
Reading JSON text byte by byte: whitespace, literals, strings and numbers.
-/

namespace OpenApiGen

/-- A UTF-8 text and the index of the next byte to read. -/
structure Cursor where
  bytes : ByteArray
  pos : Nat

abbrev Scan := EStateM DecodeError Cursor

namespace Cursor

def ofString (s : String) : Cursor := ⟨s.toUTF8, 0⟩

def peek? (c : Cursor) : Option UInt8 :=
  if h : c.pos < c.bytes.size then some (c.bytes[c.pos]) else none

/-- Line and column of index `i`: the line counts the newlines before it, the column the bytes
since the last one. -/
def positionAt (c : Cursor) (i : Nat) : TextPosition :=
  let stop := min i c.bytes.size
  let step (acc : Nat × Nat) (j : Nat) : Nat × Nat :=
    if c.bytes.get! j == 10 then (acc.1 + 1, j + 1) else acc
  let (newlines, lineStart) := (List.range stop).foldl step (0, 0)
  ⟨newlines + 1, i - lineStart⟩

def isBlank (b : UInt8) : Bool := b == 32 || b == 10 || b == 9 || b == 13

def skipBlank (c : Cursor) : Cursor :=
  if h : c.pos < c.bytes.size then
    if isBlank (c.bytes[c.pos]) then skipBlank { c with pos := c.pos + 1 } else c
  else c
termination_by c.bytes.size - c.pos

end Cursor

namespace Scan

/-- Run `f` with a bound on the bytes left, for loops that consume a byte a round. -/
def withRemaining (f : Nat → Scan α) : Scan α := fun c => f (c.bytes.size - c.pos + 1) c

def failHere (p : Problem) : Scan α := fun c =>
  .error { problem := p, position := some (c.positionAt c.pos) } c

def failAhead (p : Problem) : Scan α := fun c =>
  .error { problem := p, position := some (c.positionAt (min c.bytes.size (c.pos + 1))) } c

def failBare (p : Problem) : Scan α := fun c => .error { problem := p } c

/-- A failure with no place gets the place reached when it comes out of `act`. -/
def fixing (act : Scan α) : Scan α := fun c =>
  match act c with
  | .ok a c' => .ok a c'
  | .error e c' => .error (e.placeAt (c'.positionAt c'.pos)) c'

def mapError (f : DecodeError → DecodeError) (act : Scan α) : Scan α := fun c =>
  match act c with
  | .ok a c' => .ok a c'
  | .error e c' => .error (f e) c'

/-- Run `act`; on failure run `after` for its movement only, then fail with the first error. -/
def thenAlways (act : Scan α) (after : Scan Unit) : Scan α := fun c =>
  match act c with
  | .ok a c' => .ok a c'
  | .error e c' =>
    match after c' with
    | .ok _ c'' => .error e c''
    | .error _ c'' => .error e c''

def peek : Scan (Option UInt8) := fun c => .ok c.peek? c

def eat : Scan Unit := fun c => .ok () { c with pos := c.pos + 1 }

def next : Scan (Option UInt8) := fun c =>
  match c.peek? with
  | none => .ok none c
  | some b => .ok (some b) { c with pos := c.pos + 1 }

def skipBlank : Scan (Option UInt8) := fun c =>
  let c' := c.skipBlank
  .ok c'.peek? c'

def ident : List UInt8 → Scan Unit
  | [] => pure ()
  | b :: rest => do
    match ← next with
    | none => failHere .eofValue
    | some x => if x == b then ident rest else failHere .expectedIdent

/-! ## Strings -/

def hexValue (b : UInt8) : Option Nat :=
  if 48 ≤ b && b ≤ 57 then some (b.toNat - 48)
  else if 97 ≤ b && b ≤ 102 then some (b.toNat - 87)
  else if 65 ≤ b && b ≤ 70 then some (b.toNat - 55)
  else none

def hexQuad : Scan Nat := fun c =>
  if c.pos + 4 ≤ c.bytes.size then
    let c' := { c with pos := c.pos + 4 }
    let ds := [c.bytes.get! c.pos, c.bytes.get! (c.pos + 1), c.bytes.get! (c.pos + 2),
      c.bytes.get! (c.pos + 3)]
    match ds.mapM hexValue with
    | some [a, b, d, e] => .ok (((a * 16 + b) * 16 + d) * 16 + e) c'
    | _ => failHere .invalidEscape c'
  else
    let c' := { c with pos := c.bytes.size }
    failHere .eofString c'

def utf8 (n : Nat) : ByteArray := (String.singleton (Char.ofNat n)).toUTF8

/-- The byte at the cursor, or a failure at the end of the text inside a string. -/
def peekInString : Scan UInt8 := do
  match ← peek with
  | some b => pure b
  | none => failHere .eofString

/-- A `\u` escape after the `u`: a character outside the surrogates, or a leading and a trailing
surrogate escaped one after the other. -/
def unicodeEscape : Scan ByteArray := do
  let n ← hexQuad
  if 0xDC00 ≤ n && n ≤ 0xDFFF then failHere .loneLeadingSurrogate
  else if n < 0xD800 || n > 0xDBFF then pure (utf8 n)
  else
    if (← peekInString) != 92 then do eat; failHere .unexpectedEndOfHexEscape
    eat
    if (← peekInString) != 117 then do eat; failHere .unexpectedEndOfHexEscape
    eat
    let n2 ← hexQuad
    if n2 < 0xDC00 || n2 > 0xDFFF then failHere .loneLeadingSurrogate
    else pure (utf8 ((((n - 0xD800) * 1024) ||| (n2 - 0xDC00)) + 0x10000))

def escape : Scan ByteArray := do
  match ← next with
  | none => failHere .eofString
  | some b =>
    if b == 34 then pure (ByteArray.mk #[34])
    else if b == 92 then pure (ByteArray.mk #[92])
    else if b == 47 then pure (ByteArray.mk #[47])
    else if b == 98 then pure (ByteArray.mk #[8])
    else if b == 102 then pure (ByteArray.mk #[12])
    else if b == 110 then pure (ByteArray.mk #[10])
    else if b == 114 then pure (ByteArray.mk #[13])
    else if b == 116 then pure (ByteArray.mk #[9])
    else if b == 117 then unicodeEscape
    else failHere .invalidEscape

/-- The body of a string up to and including its closing quote; `fuel` bounds the bytes left. -/
def stringBody : Nat → ByteArray → Scan ByteArray
  | 0, _ => failHere .eofString
  | fuel + 1, acc => do
    match ← peek with
    | none => failHere .eofString
    | some b =>
      if b == 34 then do eat; pure acc
      else if b == 92 then do
        eat
        let bs ← escape
        stringBody fuel (acc ++ bs)
      else if b < 32 then do eat; failHere .controlCharacter
      else do eat; stringBody fuel (acc.push b)

def string : Scan String := fun c =>
  match stringBody (c.bytes.size - c.pos + 1) ByteArray.empty c with
  | .ok bs c' => .ok ((String.fromUTF8? bs).getD "") c'
  | .error e c' => .error e c'

/-! ## Numbers -/

abbrev ReadNumber := JsonNumber

def powerOfTen (k : Nat) : Float := Float.ofScientific 1 false k

def maxU64 : Nat := Nat.pow 2 64 - 1

def overflows (acc d limit : Nat) : Bool :=
  acc ≥ limit / 10 && (acc > limit / 10 || d > limit % 10)

/-- Scale `s` by `10^k`, as described above; the sign is applied last. -/
def scale (positive : Bool) (s : Nat) (k : Int) : Scan Float := do
  let rec go : Nat → Float → Int → Scan Float
    | 0, f, _ => pure f
    | fuel + 1, f, k =>
      if k.natAbs ≤ 308 then
        if k ≥ 0 then
          let g := f * powerOfTen k.natAbs
          if g.isInf then failHere .numberOutOfRange else pure g
        else pure (f / powerOfTen k.natAbs)
      else if f == 0 then pure f
      else if k ≥ 0 then failHere .numberOutOfRange
      else go fuel (f / powerOfTen 308) (k + 308)
  let f ← go 8 (Float.ofNat s) k
  pure (if positive then f else -f)

def saturate (k : Int) : Int := max (-2147483648) (min 2147483647 k)

def skipDigits : Nat → Scan Unit
  | 0 => pure ()
  | fuel + 1 => do
    match ← peek with
    | some b => if 48 ≤ b && b ≤ 57 then do eat; skipDigits fuel else pure ()
    | none => pure ()

/-- The digits of an exponent after its first; past the 32-bit range the value is decided by the
sign alone. -/
def exponentDigits (positive : Bool) (s : Nat) (start : Int) (positiveExp : Bool) :
    Nat → Nat → Scan Float
  | 0, e => scale positive s (saturate (if positiveExp then start + e else start - e))
  | fuel + 1, e => do
    match ← peek with
    | some b =>
      if 48 ≤ b && b ≤ 57 then do
        eat
        let d := b.toNat - 48
        if overflows e d 2147483647 then
          if s != 0 && positiveExp then failHere .numberOutOfRange
          else do
            skipDigits fuel
            pure (if positive then 0.0 else -0.0)
        else exponentDigits positive s start positiveExp fuel (e * 10 + d)
      else scale positive s (saturate (if positiveExp then start + e else start - e))
    | none => scale positive s (saturate (if positiveExp then start + e else start - e))

def exponent (positive : Bool) (s : Nat) (start : Int) : Scan Float := do
  eat
  let positiveExp ← do
    match ← peek with
    | some 43 => do eat; pure true
    | some 45 => do eat; pure false
    | _ => pure true
  match ← next with
  | none => failHere .eofValue
  | some b =>
    if 48 ≤ b && b ≤ 57 then
      withRemaining (fun fuel => exponentDigits positive s start positiveExp fuel (b.toNat - 48))
    else failHere .invalidNumber

/-- After a point or an overflowing significand: an exponent or the end. -/
def finish (positive : Bool) (s : Nat) (k : Int) : Scan Float := do
  match ← peek with
  | some 101 => exponent positive s k
  | some 69 => exponent positive s k
  | _ => scale positive s k

def fractionDigits (positive : Bool) (start : Int) : Nat → Nat → Nat → Scan Float
  | 0, s, count => finish positive s (start - count)
  | fuel + 1, s, count => do
    match ← peek with
    | some b =>
      if 48 ≤ b && b ≤ 57 then
        let d := b.toNat - 48
        if overflows s d maxU64 then do
          skipDigits fuel
          finish positive s (start - count)
        else do
          eat
          fractionDigits positive start fuel (s * 10 + d) (count + 1)
      else if count == 0 then failAhead .invalidNumber
      else finish positive s (start - count)
    | none =>
      if count == 0 then failAhead .eofValue else finish positive s (start - count)

def fraction (positive : Bool) (s : Nat) (start : Int) : Scan Float := do
  eat
  withRemaining (fun fuel => fractionDigits positive start fuel s 0)

def longInteger (positive : Bool) (s : Nat) : Nat → Int → Scan Float
  | 0, k => scale positive s k
  | fuel + 1, k => do
    match ← peek with
    | some b =>
      if 48 ≤ b && b ≤ 57 then do eat; longInteger positive s fuel (k + 1)
      else if b == 46 then fraction positive s k
      else if b == 101 || b == 69 then exponent positive s k
      else scale positive s k
    | none => scale positive s k

/-- What follows the integer part: a fraction, an exponent, or the end of an integer. -/
def afterInteger (positive : Bool) (s : Nat) : Scan ReadNumber := do
  match ← peek with
  | some 46 => return .double (← fraction positive s 0)
  | some 101 => return .double (← exponent positive s 0)
  | some 69 => return .double (← exponent positive s 0)
  | _ =>
    if positive then pure (.unsigned s)
    else if s == 0 then pure (.double (-0.0))
    else if s ≤ Nat.pow 2 63 then pure (.signed (-(s : Int)))
    else pure (.double (-(Float.ofNat s)))

def integerDigits (positive : Bool) : Nat → Nat → Scan ReadNumber
  | 0, s => afterInteger positive s
  | fuel + 1, s => do
    match ← peek with
    | some b =>
      if 48 ≤ b && b ≤ 57 then
        let d := b.toNat - 48
        if overflows s d maxU64 then return .double (← longInteger positive s fuel 0)
        else do eat; integerDigits positive fuel (s * 10 + d)
      else afterInteger positive s
    | none => afterInteger positive s

def number (positive : Bool) : Scan ReadNumber := do
  match ← next with
  | none => failHere .eofValue
  | some b =>
    if b == 48 then do
      match ← peek with
      | some d => if 48 ≤ d && d ≤ 57 then failAhead .invalidNumber else afterInteger positive 0
      | none => afterInteger positive 0
    else if 49 ≤ b && b ≤ 57 then
      withRemaining (fun fuel => integerDigits positive fuel (b.toNat - 48))
    else failHere .invalidNumber

end Scan

end OpenApiGen
