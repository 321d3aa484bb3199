import OpenApiGen.Decimal.Shortest
import OpenApiGen.Text.Debug

/-!
Why decoding JSON failed, and where.
-/

namespace OpenApiGen

/-- The kind of value a decoder met where it expected another. -/
inductive Unexpected where
  | bool (b : Bool)
  | unsigned (n : Nat)
  | signed (n : Int)
  | double (f : Float)
  | string (s : String)
  | null
  | sequence
  | map
  deriving Inhabited

def Unexpected.describe : Unexpected → String
  | .bool b => "boolean `" ++ (if b then "true" else "false") ++ "`"
  | .unsigned n => "integer `" ++ toString n ++ "`"
  | .signed n => "integer `" ++ toString n ++ "`"
  | .double f => "floating point `" ++ Decimal.FloatStyle.json.render f ++ "`"
  | .string s => "string " ++ Text.debugString s
  | .null => "null"
  | .sequence => "sequence"
  | .map => "map"

/-- The cause of a decoding failure. -/
inductive Problem where
  | eofList
  | eofObject
  | eofString
  | eofValue
  | expectedColon
  | expectedListCommaOrEnd
  | expectedObjectCommaOrEnd
  | expectedIdent
  | expectedValue
  | invalidEscape
  | invalidNumber
  | numberOutOfRange
  | controlCharacter
  | keyMustBeString
  | loneLeadingSurrogate
  | trailingComma
  | trailingCharacters
  | unexpectedEndOfHexEscape
  | recursionLimit
  | invalidType (found : Unexpected) (expected : String)
  | invalidValue (found : Unexpected) (expected : String)
  | invalidLength (length : Nat) (expected : String)
  | unknownField (name : String) (expected : List String)
  | unknownVariant (name : String) (expected : List String)
  | missingField (name : String)
  | duplicateField (name : String)
  | noVariantMatched (enumName : String)
  deriving Inhabited

/-- Names in backquotes: one alone, two joined by `or`, more as `one of …`. -/
def oneOf (names : List String) : String :=
  let q := names.map (fun n => "`" ++ n ++ "`")
  match q with
  | [a] => a
  | [a, b] => a ++ " or " ++ b
  | _ => "one of " ++ ", ".intercalate q

def Problem.message : Problem → String
  | .eofList => "EOF while parsing a list"
  | .eofObject => "EOF while parsing an object"
  | .eofString => "EOF while parsing a string"
  | .eofValue => "EOF while parsing a value"
  | .expectedColon => "expected `:`"
  | .expectedListCommaOrEnd => "expected `,` or `]`"
  | .expectedObjectCommaOrEnd => "expected `,` or `\x7d`"
  | .expectedIdent => "expected ident"
  | .expectedValue => "expected value"
  | .invalidEscape => "invalid escape"
  | .invalidNumber => "invalid number"
  | .numberOutOfRange => "number out of range"
  | .controlCharacter => "control character (\\u0000-\\u001F) found while parsing a string"
  | .keyMustBeString => "key must be a string"
  | .loneLeadingSurrogate => "lone leading surrogate in hex escape"
  | .trailingComma => "trailing comma"
  | .trailingCharacters => "trailing characters"
  | .unexpectedEndOfHexEscape => "unexpected end of hex escape"
  | .recursionLimit => "recursion limit exceeded"
  | .invalidType found expected => "invalid type: " ++ found.describe ++ ", expected " ++ expected
  | .invalidValue found expected => "invalid value: " ++ found.describe ++ ", expected " ++ expected
  | .invalidLength n expected => "invalid length " ++ toString n ++ ", expected " ++ expected
  | .unknownField name [] => "unknown field `" ++ name ++ "`, there are no fields"
  | .unknownField name expected => "unknown field `" ++ name ++ "`, expected " ++ oneOf expected
  | .unknownVariant name [] => "unknown variant `" ++ name ++ "`, there are no variants"
  | .unknownVariant name expected =>
    "unknown variant `" ++ name ++ "`, expected " ++ oneOf expected
  | .missingField name => "missing field `" ++ name ++ "`"
  | .duplicateField name => "duplicate field `" ++ name ++ "`"
  | .noVariantMatched enumName => "data did not match any variant of untagged enum " ++ enumName

/-- One step of a path into a JSON value. -/
inductive Segment where
  | key (name : String)
  | index (i : Nat)
  | unknown
  deriving Inhabited

abbrev JsonPath := List Segment

def Segment.render : Segment → String
  | .key name => name
  | .index i => "[" ++ toString i ++ "]"
  | .unknown => "?"

/-- `.` for the root; steps joined by `.`, with no dot before an index. -/
def JsonPath.render : JsonPath → String
  | [] => "."
  | first :: rest =>
    rest.foldl (fun acc s => match s with
      | .index _ => acc ++ s.render
      | _ => acc ++ "." ++ s.render) first.render

/-- A line and a column (counted in bytes) of a text. -/
structure TextPosition where
  line : Nat
  column : Nat
  deriving Inhabited

/-- A decoding failure: the cause, the place in the text if the input was text, and the path to
the value that failed, once known. -/
structure DecodeError where
  problem : Problem
  position : Option TextPosition := none
  path : Option JsonPath := none
  deriving Inhabited

namespace DecodeError

def message (e : DecodeError) : String :=
  match e.position with
  | none => e.problem.message
  | some p => e.problem.message ++ " at line " ++ toString p.line ++ " column " ++ toString p.column

def pathText (e : DecodeError) : String :=
  (e.path.getD []).render

/-- Record `here` as the failing value unless a deeper one is known. -/
def markHere (e : DecodeError) : DecodeError :=
  match e.path with
  | none => { e with path := some [] }
  | some _ => e

/-- Put the step to a child in front of a path found inside that child. -/
def within (s : Segment) (e : DecodeError) : DecodeError :=
  match e.path with
  | none => { e with path := some [s] }
  | some p => { e with path := some (s :: p) }

def placeAt (pos : TextPosition) (e : DecodeError) : DecodeError :=
  match e.position with
  | none => { e with position := some pos }
  | some _ => e

end DecodeError

end OpenApiGen
