/-!
Reports on refused regular expressions.
-/

namespace OpenApiGen.Pattern

/-- A place in a pattern: character index, line and column (both from 1). -/
structure Position where
  index : Nat
  line : Nat
  column : Nat
  deriving Inhabited, DecidableEq

/-- A stretch of a pattern, end excluded. -/
structure Span where
  start : Position
  stop : Position
  deriving Inhabited

/-- Why a pattern is refused. -/
inductive ErrorKind where
  | classEscapeInvalid
  | classRangeInvalid
  | classRangeLiteral
  | classUnclosed
  | decimalEmpty
  | decimalInvalid
  | escapeHexEmpty
  | escapeHexInvalid
  | escapeHexInvalidDigit
  | escapeUnexpectedEof
  | escapeUnrecognized
  | flagDanglingNegation
  | flagDuplicate
  | flagRepeatedNegation
  | flagUnexpectedEof
  | flagUnrecognized
  | groupNameDuplicate
  | groupNameEmpty
  | groupNameInvalid
  | groupNameUnexpectedEof
  | groupUnclosed
  | groupUnopened
  | nestLimitExceeded (limit : Nat)
  | repetitionCountInvalid
  | repetitionCountDecimalEmpty
  | repetitionCountUnclosed
  | repetitionMissing
  | specialWordBoundaryUnclosed
  | specialWordBoundaryUnrecognized
  | specialWordOrRepetitionUnexpectedEof
  | unicodeClassInvalid
  | unsupportedBackreference
  | unsupportedLookAround
  | unicodeNotAllowed
  | invalidUtf8
  | unicodePropertyNotFound
  | unicodePropertyValueNotFound
  deriving Inhabited

def ErrorKind.message : ErrorKind → String
  | .classEscapeInvalid => "invalid escape sequence found in character class"
  | .classRangeInvalid => "invalid character class range, the start must be <= the end"
  | .classRangeLiteral => "invalid range boundary, must be a literal"
  | .classUnclosed => "unclosed character class"
  | .decimalEmpty => "decimal literal empty"
  | .decimalInvalid => "decimal literal invalid"
  | .escapeHexEmpty => "hexadecimal literal empty"
  | .escapeHexInvalid => "hexadecimal literal is not a Unicode scalar value"
  | .escapeHexInvalidDigit => "invalid hexadecimal digit"
  | .escapeUnexpectedEof => "incomplete escape sequence, reached end of pattern prematurely"
  | .escapeUnrecognized => "unrecognized escape sequence"
  | .flagDanglingNegation => "dangling flag negation operator"
  | .flagDuplicate => "duplicate flag"
  | .flagRepeatedNegation => "flag negation operator repeated"
  | .flagUnexpectedEof => "expected flag but got end of regex"
  | .flagUnrecognized => "unrecognized flag"
  | .groupNameDuplicate => "duplicate capture group name"
  | .groupNameEmpty => "empty capture group name"
  | .groupNameInvalid => "invalid capture group character"
  | .groupNameUnexpectedEof => "unclosed capture group name"
  | .groupUnclosed => "unclosed group"
  | .groupUnopened => "unopened group"
  | .nestLimitExceeded limit =>
    "exceed the maximum number of nested parentheses/brackets (" ++ toString limit ++ ")"
  | .repetitionCountInvalid => "invalid repetition count range, the start must be <= the end"
  | .repetitionCountDecimalEmpty => "repetition quantifier expects a valid decimal"
  | .repetitionCountUnclosed => "unclosed counted repetition"
  | .repetitionMissing => "repetition operator missing expression"
  | .specialWordBoundaryUnclosed =>
    "special word boundary assertion is either unclosed or contains an invalid character"
  | .specialWordBoundaryUnrecognized =>
    "unrecognized special word boundary assertion, valid choices are: start, end, start-half or end-half"
  | .specialWordOrRepetitionUnexpectedEof =>
    "found either the beginning of a special word boundary or a bounded repetition on a \\b with an opening brace, but no closing brace"
  | .unicodeClassInvalid => "invalid Unicode character class"
  | .unsupportedBackreference => "backreferences are not supported"
  | .unsupportedLookAround =>
    "look-around, including look-ahead and look-behind, is not supported"
  | .unicodeNotAllowed => "Unicode not allowed here"
  | .invalidUtf8 => "pattern can match invalid UTF-8"
  | .unicodePropertyNotFound => "Unicode property not found"
  | .unicodePropertyValueNotFound => "Unicode property value not found"

/-- A refusal: the cause, the span it marks and, for a repeat of something, the span of the first
occurrence. -/
structure SyntaxError where
  kind : ErrorKind
  span : Span
  aux : Option Span := none
  deriving Inhabited

/-- The lines of a text, split at `\n`, a final `\r` dropped from each, no line after a final
`\n`. -/
def textLines (s : String) : List String :=
  let parts := s.splitOn "\n"
  let parts := if s.endsWith "\n" then parts.dropLast else parts
  parts.map (fun l => if l.endsWith "\r" then (l.dropEnd 1).toString else l)

def repeatChar (c : Char) (n : Nat) : String := String.ofList (List.replicate n c)

/-- The caret line under one pattern line: `padding` blanks, then for each span blanks up to its
start column and a caret per character. -/
def caretLine (padding : Nat) (spans : List Span) : String :=
  let step (acc : String × Nat) (sp : Span) : String × Nat :=
    let (s, pos) := acc
    let gap := (sp.start.column - 1) - pos
    let width := max 1 (sp.stop.column - sp.start.column)
    (s ++ repeatChar ' ' gap ++ repeatChar '^' width, pos + gap + width)
  (spans.foldl step (repeatChar ' ' padding, 0)).1

def insertSpan (sp : Span) : List Span → List Span
  | [] => [sp]
  | s :: rest =>
    if sp.start.index < s.start.index ||
        (sp.start.index == s.start.index && sp.stop.index ≤ s.stop.index) then sp :: s :: rest
    else s :: insertSpan sp rest

def SyntaxError.render (pattern : String) (e : SyntaxError) : String :=
  let lines := textLines pattern
  let lineCount := lines.length + (if pattern.endsWith "\n" then 1 else 0)
  let width := if lineCount ≤ 1 then 0 else (toString lineCount).length
  let spans := e.span :: e.aux.toList
  let oneLine := spans.filter (fun s => s.start.line == s.stop.line)
  let multi := (spans.filter (fun s => s.start.line != s.stop.line)).foldr insertSpan []
  let padding := if width == 0 then 4 else 2 + width
  let numbered (i : Nat) : String :=
    if width == 0 then "    "
    else
      let n := toString (i + 1)
      repeatChar ' ' (width - n.length) ++ n ++ ": "
  let notated := String.join (lines.zipIdx.map (fun (line, i) =>
    let here := (oneLine.filter (fun s => s.start.line == i + 1)).foldr insertSpan []
    numbered i ++ line ++ "\n" ++
      (if here.isEmpty then "" else caretLine padding here ++ "\n")))
  if pattern.contains '\n' then
    let rule := repeatChar '~' 79
    let notes := multi.map (fun s =>
      "on line " ++ toString s.start.line ++ " (column " ++ toString s.start.column ++
        ") through line " ++ toString s.stop.line ++ " (column " ++ toString (s.stop.column - 1) ++ ")")
    "regex parse error:\n" ++ rule ++ "\n" ++ notated ++ rule ++ "\n" ++
      (if notes.isEmpty then "" else "\n".intercalate notes ++ "\n") ++
      "error: " ++ e.kind.message
  else
    "regex parse error:\n" ++ notated ++ "error: " ++ e.kind.message

end OpenApiGen.Pattern
