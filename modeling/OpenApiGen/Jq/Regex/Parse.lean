import OpenApiGen.Jq.Regex.Expr
import OpenApiGen.Text.Printable
import OpenApiGen.Text.Blank
/-!
Reading regular expressions.
-/

namespace OpenApiGen.Jq.Regex

/-- The flags that shape how an expression is read. -/
structure Flags where
  caseInsensitive : Bool := false
  multiLine : Bool := false
  dotAll : Bool := false
  swapGreed : Bool := false
  crlf : Bool := false
  ignoreSpace : Bool := false
  deriving Inhabited

def nestLimit : Nat := 250

def errTooMuchNesting : String := "pattern has too much nesting"
def errDuplicateName : String := "duplicate capture group name"
def errUnclosedGroup : String := "found open group without closing ')'"
def errUnclosedGroupQuestion : String := "expected closing ')', but got end of pattern"
def errUnopenedGroup : String := "found closing ')' without matching '('"
def errLookUnsupported : String := "look-around is not supported"
def errEmptyFlags : String := "empty flag directive '(?)' is not allowed"
def errMissingGroupName : String := "expected capture group name, but got end of pattern"
def errInvalidGroupName : String := "invalid group name"
def errUnclosedGroupName : String := "expected end of capture group name, but got end of pattern"
def errEmptyGroupName : String := "empty capture group names are not allowed"
def errFlagUnrecognized : String := "unrecognized inline flag"
def errFlagRepeatedNegation : String := "inline flag negation cannot be repeated"
def errFlagDuplicate : String := "duplicate inline flag is not allowed"
def errFlagUnexpectedEnd : String := "expected ':' or ')' to end inline flags, but got end of pattern"
def errFlagDanglingNegation : String := "inline flags cannot end with negation directive"
def errDecimalNoDigits : String := "expected decimal number, but found no digits"
def errDecimalInvalid : String := "got invalid decimal number"
def errHexBraceInvalidDigit : String :=
  "expected hexadecimal number in braces, but got non-hex digit"
def errHexBraceUnexpectedEnd : String :=
  "expected hexadecimal number, but saw end of pattern before closing brace"
def errHexBraceEmpty : String := "expected hexadecimal number in braces, but got no digits"
def errHexBraceInvalid : String := "got invalid hexadecimal number in braces"
def errHexFixedUnexpectedEnd : String :=
  "expected fixed length hexadecimal number, but saw end of pattern first"
def errHexFixedInvalidDigit : String :=
  "expected fixed length hexadecimal number, but got non-hex digit"
def errHexFixedInvalid : String := "got invalid fixed length hexadecimal number"
def errHexUnexpectedEnd : String := "expected hexadecimal number, but saw end of pattern first"
def errEscapeUnexpectedEnd : String := "saw start of escape sequence, but saw end of pattern"
def errBackrefUnsupported : String := "backreferences are not supported"
def errUnicodeClassUnsupported : String := "Unicode character classes are not supported"
def errEscapeUnrecognized : String := "unrecognized escape sequence"
def errUncountedRepMissing : String :=
  "uncounted repetition operator must be applied to a sub-expression"
def errCountedRepMissing : String :=
  "counted repetition operator must be applied to a sub-expression"
def errCountedRepUnclosed : String := "found unclosed counted repetition operator"
def errCountedRepMinUnclosed : String :=
  "found incomplete and unclosed counted repetition operator"
def errCountedRepCommaUnclosed : String :=
  "found counted repetition operator with a comma that is unclosed"
def errCountedRepInvalid : String :=
  "expected closing brace for counted repetition, but got something else"
def errCountedRepInvalidRange : String := "found counted repetition with invalid range"
def errClassUnclosedAfterItem : String := "non-empty character class has no closing bracket"
def errClassInvalidRangeItem : String :=
  "character class ranges must start and end with a single character"
def errClassInvalidItem : String := "invalid escape sequence in character class"
def errClassUnclosedAfterDash : String :=
  "non-empty character class has no closing bracket after dash"
def errClassUnclosedAfterNegation : String := "negated character class has no closing bracket"
def errClassUnclosedAfterClosing : String :=
  "character class begins with literal ']' but has no closing bracket"
def errClassInvalidRange : String := "invalid range in character class"
def errClassUnclosed : String := "found unclosed character class"
def errClassNestUnsupported : String := "nested character classes are not supported"
def errClassIntersection : String := "character class intersection is not supported"
def errClassDifference : String := "character class difference is not supported"
def errClassSymmetricDifference : String :=
  "character class symmetric difference is not supported"
def errSpecialWordBoundaryUnclosed : String :=
  "special word boundary assertion is unclosed or has an invalid character"
def errSpecialWordBoundaryUnrecognized : String := "special word boundary assertion is unrecognized"
def errSpecialWordOrRepUnexpectedEnd : String :=
  "found start of special word boundary or repetition without an end"

/-- The reader's state: the pattern, the position, the flags in force, the groups met. -/
structure Reader where
  text : Array Char
  pos : Nat := 0
  flags : Flags
  captures : Nat := 0
  names : List String := []
  depth : Nat := 0

abbrev Read := ExceptT String (StateM Reader)

namespace Read

def cur : Read (Option Char) := do
  let s ← get
  return s.text[s.pos]?

def isDone : Read Bool := do
  let s ← get
  return s.pos ≥ s.text.size

def bump : Read Bool := do
  let s ← get
  if s.pos ≥ s.text.size then return false
  set { s with pos := s.pos + 1 }
  return s.pos + 1 < s.text.size

def peek : Read (Option Char) := do
  let s ← get
  return s.text[s.pos + 1]?

def flags : Read Flags := do return (← get).flags

def bumpIf (p : String) : Read Bool := do
  let s ← get
  let cs := p.toList
  if (s.text.extract s.pos (s.pos + cs.length)).toList == cs then
    set { s with pos := s.pos + cs.length }
    return true
  else return false

def skipComment : Nat → Read Unit
  | 0 => pure ()
  | fuel + 1 => do
    match ← cur with
    | none => pure ()
    | some c =>
      let _ ← bump
      if c == '\n' then pure () else skipComment fuel

def skipSpace : Nat → Read Unit
  | 0 => pure ()
  | fuel + 1 => do
    match ← cur with
    | none => pure ()
    | some c =>
      if Text.isWhiteSpace c then do
        let _ ← bump
        skipSpace fuel
      else if c == '#' then do
        let _ ← bump
        skipComment fuel
        skipSpace fuel
      else pure ()

def bumpSpace : Read Unit := do
  if (← flags).ignoreSpace then skipSpace ((← get).text.size + 1)

/-- Moves past the current character and then blanks; whether a character follows. -/
def bumpAndBumpSpace : Read Bool := do
  if !(← bump) then return false
  bumpSpace
  return !(← isDone)

/-- The first character after the current one that is not blank or in a comment, when those are
ignored. -/
def peekSpace : Read (Option Char) := do
  let s ← get
  if !s.flags.ignoreSpace then return s.text[s.pos + 1]?
  if s.pos ≥ s.text.size then return none
  let rest := (s.text.extract (s.pos + 1) s.text.size).toList
  let (_, found) := rest.foldl (fun (inComment, found) ch =>
    match found with
    | some _ => (inComment, found)
    | none =>
      if Text.isWhiteSpace ch then (inComment, none)
      else if !inComment && ch == '#' then (true, none)
      else if inComment && ch == '\n' then (false, none)
      else (inComment, some ch)) (false, none)
  return found

def charExpr (c : Char) : Read Expr := do
  if (← flags).caseInsensitive then
    let n := c.toNat
    if 0x41 ≤ n && n ≤ 0x5A then return .cls [(n, n), (n + 32, n + 32)]
    if 0x61 ≤ n && n ≤ 0x7A then return .cls [(n - 32, n - 32), (n, n)]
  return .char c

def isMeta (c : Char) : Bool := "\\.+*?()|[]{}^$#&-~".contains c

/-- Whether a backslash may stand before a character to mean the character itself. -/
def isEscapeable (c : Char) : Bool :=
  if isMeta c then true
  else if c.toNat ≥ 128 then false
  else if c.isAlphanum then false
  else !(c == '<' || c == '>')

def isHex (c : Char) : Bool :=
  c.isDigit || ('a' ≤ c && c ≤ 'f') || ('A' ≤ c && c ≤ 'F')

def hexValue (cs : List Char) : Nat :=
  cs.foldl (fun acc c =>
    acc * 16 + (if c.isDigit then c.toNat - 48 else if c ≤ 'F' then c.toNat - 55 else c.toNat - 87)) 0

/-- The character of a code point, if it is a Unicode scalar value. -/
def scalar? (n : Nat) : Option Char :=
  if n < 0xD800 || (0xDFFF < n && n < 0x110000) then some (Char.ofNat n) else none

def hexDigits : Nat → Nat → List Char → Read Expr
  | 0, _, _ => throw errHexFixedUnexpectedEnd
  | fuel + 1, left, acc => do
    if left == 0 then
      let _ ← bumpAndBumpSpace
      match scalar? (hexValue acc.reverse) with
      | some c => charExpr c
      | none => throw errHexFixedInvalid
    else
      if !acc.isEmpty then
        if !(← bumpAndBumpSpace) then throw errHexFixedUnexpectedEnd
      match ← cur with
      | some c => if isHex c then hexDigits fuel (left - 1) (c :: acc) else throw errHexFixedInvalidDigit
      | none => throw errHexFixedUnexpectedEnd

def hexBrace : Nat → List Char → Read Expr
  | 0, _ => throw errHexBraceUnexpectedEnd
  | fuel + 1, acc => do
    if (← bumpAndBumpSpace) then
      match ← cur with
      | some '}' => pure ()
      | some c => if isHex c then return ← hexBrace fuel (c :: acc) else throw errHexBraceInvalidDigit
      | none => pure ()
    if ← isDone then throw errHexBraceUnexpectedEnd
    let _ ← bumpAndBumpSpace
    if acc.isEmpty then throw errHexBraceEmpty
    match scalar? (hexValue acc.reverse) with
    | some c => charExpr c
    | none => throw errHexBraceInvalid

def hexEscape (kind : Char) : Read Expr := do
  let len := if kind == 'x' then 2 else if kind == 'u' then 4 else 8
  if !(← bumpAndBumpSpace) then throw errHexUnexpectedEnd
  let fuel := (← get).text.size + 2
  if (← cur) == some '{' then hexBrace fuel [] else hexDigits fuel len []

def perlClass (c : Char) : Read Expr := do
  let _ ← bump
  let base := if c == 'd' || c == 'D' then posixClass "digit"
    else if c == 's' || c == 'S' then posixClass "space" else posixClass "word"
  let rs := base.getD []
  return .cls (if c.isUpper then negate rs else rs)

def boundaryLetters : Nat → List Char → Read (List Char)
  | 0, acc => pure acc.reverse
  | fuel + 1, acc => do
    match ← cur with
    | some c =>
      if c.isAlpha || c == '-' then do
        let _ ← bumpAndBumpSpace
        boundaryLetters fuel (c :: acc)
      else pure acc.reverse
    | none => pure acc.reverse

/-- A special word boundary `\b{...}`, the brace current, or nothing if it is not one. -/
def specialWordBoundary : Read (Option Expr) := do
  let start := (← get).pos
  if !(← bumpAndBumpSpace) then throw errSpecialWordOrRepUnexpectedEnd
  match ← cur with
  | some c =>
    if !(c.isAlpha || c == '-') then
      modify fun s => { s with pos := start }
      return none
  | none => pure ()
  let letters ← boundaryLetters ((← get).text.size + 1) []
  if (← cur) != some '}' then throw errSpecialWordBoundaryUnclosed
  let _ ← bump
  match String.ofList letters with
  | "start" => return some (.look .wordStart)
  | "end" => return some (.look .wordEnd)
  | "start-half" => return some (.look .wordStartHalf)
  | "end-half" => return some (.look .wordEndHalf)
  | _ => throw errSpecialWordBoundaryUnrecognized

def escape : Read Expr := do
  match ← cur with
  | none => throw errEscapeUnexpectedEnd
  | some c =>
    if c.isDigit then throw errBackrefUnsupported
    if c == 'p' || c == 'P' then throw errUnicodeClassUnsupported
    if c == 'x' || c == 'u' || c == 'U' then return ← hexEscape c
    if "dswDSW".contains c then return ← perlClass c
    let _ ← bump
    if isEscapeable c then return ← charExpr c
    match c with
    | 'a' => charExpr (Char.ofNat 7)
    | 'f' => charExpr (Char.ofNat 12)
    | 't' => charExpr '\t'
    | 'n' => charExpr '\n'
    | 'r' => charExpr '\r'
    | 'v' => charExpr (Char.ofNat 11)
    | 'A' => return .look .start
    | 'z' => return .look .finish
    | 'b' =>
      if (← cur) == some '{' then
        match ← specialWordBoundary with
        | some e => return e
        | none => return .look .word
      else return .look .word
    | 'B' => return .look .notWord
    | '<' => return .look .wordStart
    | '>' => return .look .wordEnd
    | _ => throw errEscapeUnrecognized

/-- Digits of a decimal number, each followed by blanks when those are ignored. -/
def decimalDigits : Nat → Read Unit
  | 0 => pure ()
  | fuel + 1 => do
    match ← cur with
    | some c =>
      if c.isDigit then do
        let _ ← bumpAndBumpSpace
        decimalDigits fuel
      else pure ()
    | none => pure ()

def skipWhiteSpace : Nat → Read Unit
  | 0 => pure ()
  | fuel + 1 => do
    match ← cur with
    | some c =>
      if Text.isWhiteSpace c then do
        let _ ← bump
        skipWhiteSpace fuel
      else pure ()
    | none => pure ()

def decimal : Read Nat := do
  skipWhiteSpace ((← get).text.size + 1)
  let start := (← get).pos
  decimalDigits ((← get).text.size + 1)
  let s ← get
  if s.pos == start then throw errDecimalNoDigits
  let digits := (s.text.extract start s.pos).toList
  if digits.all Char.isDigit then
    let n := digits.foldl (fun acc c => acc * 10 + (c.toNat - 48)) 0
    if n < Nat.pow 2 32 then return n
  throw errDecimalInvalid

def uncountedRepetition (concat : List Expr) : Read (List Expr) := do
  match concat.getLast? with
  | none => throw errUncountedRepMissing
  | some sub =>
    let op ← cur
    let (lo, hi) : Nat × Option Nat :=
      if op == some '?' then (0, some 1) else if op == some '*' then (0, none) else (1, none)
    let mut greedy := true
    if ← bump then
      if (← cur) == some '?' then
        greedy := false
        let _ ← bump
    if (← flags).swapGreed then greedy := !greedy
    return concat.dropLast ++ [.rep lo hi greedy sub]

/-- Applies a counted repetition (its brace current) to the last atom read. -/
def countedRepetition (concat : List Expr) : Read (List Expr) := do
  match concat.getLast? with
  | none => throw errCountedRepMissing
  | some sub =>
    if !(← bumpAndBumpSpace) then throw errCountedRepUnclosed
    let lo ← decimal
    let mut hi : Option Nat := some lo
    if ← isDone then throw errCountedRepMinUnclosed
    if (← cur) == some ',' then
      if !(← bumpAndBumpSpace) then throw errCountedRepCommaUnclosed
      if (← cur) != some '}' then hi := some (← decimal) else hi := none
      if ← isDone then throw errCountedRepMinUnclosed
    if (← cur) != some '}' then throw errCountedRepInvalid
    let mut greedy := true
    if ← bumpAndBumpSpace then
      if (← cur) == some '?' then
        greedy := false
        let _ ← bump
    if (← flags).swapGreed then greedy := !greedy
    match hi with
    | some h => if lo > h then throw errCountedRepInvalidRange
    | none => pure ()
    return concat.dropLast ++ [.rep lo hi greedy sub]

/-- A POSIX class `[:name:]` inside a class, its bracket current, or nothing (the position kept)
if it is not one. -/
def posixInClass : Read (Option (List (Nat × Nat))) := do
  let start := (← get).pos
  let reset : Read (Option (List (Nat × Nat))) := do
    modify fun s => { s with pos := start }
    return none
  if !(← bump) then return ← reset
  if (← cur) != some ':' then return ← reset
  if !(← bump) then return ← reset
  let mut negated := false
  if (← cur) == some '^' then
    negated := true
    if !(← bump) then return ← reset
  let s ← get
  let rest := (s.text.extract s.pos s.text.size).toList
  let name := rest.takeWhile (· != ':')
  if name.length == rest.length then return ← reset
  modify fun s => { s with pos := s.pos + name.length }
  if !(← bumpIf ":]") then return ← reset
  match posixClass (String.ofList name) with
  | some rs => return some (if negated then negate rs else rs)
  | none => reset

def classItem : Read Expr := do
  match ← cur with
  | some '\\' => do
    let _ ← bump
    escape
  | some c => do
    let _ ← bump
    return .char c
  | none => throw errClassUnclosed

def itemRanges : Expr → Read (List (Nat × Nat))
  | .char c => pure [(c.toNat, c.toNat)]
  | .cls rs => pure rs
  | _ => throw errClassInvalidItem

def rangeEnd : Expr → Read Nat
  | .char c => pure c.toNat
  | _ => throw errClassInvalidRangeItem

def classRange : Read (List (Nat × Nat)) := do
  let first ← classItem
  bumpSpace
  if ← isDone then throw errClassUnclosedAfterItem
  let next ← peekSpace
  if (← cur) != some '-' || next == some ']' || next == some '-' then
    return ← itemRanges first
  if !(← bumpAndBumpSpace) then throw errClassUnclosedAfterDash
  let second ← classItem
  let lo ← rangeEnd first
  let hi ← rangeEnd second
  if lo > hi then throw errClassInvalidRange
  return [(lo, hi)]

def classItems : Nat → List (Nat × Nat) → Read (List (Nat × Nat))
  | 0, _ => throw errClassUnclosed
  | fuel + 1, acc => do
    bumpSpace
    match ← cur with
    | none => throw errClassUnclosed
    | some '[' =>
      match ← posixInClass with
      | some rs => classItems fuel (acc ++ rs)
      | none => throw errClassNestUnsupported
    | some ']' => do
      let _ ← bump
      return acc
    | some c =>
      let next ← peek
      if c == '&' && next == some '&' then throw errClassIntersection
      if c == '-' && next == some '-' then throw errClassDifference
      if c == '~' && next == some '~' then throw errClassSymmetricDifference
      let rs ← classRange
      classItems fuel (acc ++ rs)

def leadingDashes : Nat → List (Nat × Nat) → Read (List (Nat × Nat))
  | 0, acc => pure acc
  | fuel + 1, acc => do
    if (← cur) == some '-' then
      if !(← bumpAndBumpSpace) then throw errClassUnclosedAfterDash
      leadingDashes fuel (acc ++ [(0x2D, 0x2D)])
    else pure acc

def bracketClass : Read Expr := do
  if !(← bumpAndBumpSpace) then throw errClassUnclosed
  let mut negated := false
  if (← cur) == some '^' then
    if !(← bumpAndBumpSpace) then throw errClassUnclosedAfterNegation
    negated := true
  let fuel := (← get).text.size + 2
  let mut items ← leadingDashes fuel []
  if items.isEmpty && (← cur) == some ']' then
    items := [(0x5D, 0x5D)]
    if !(← bumpAndBumpSpace) then throw errClassUnclosedAfterClosing
  let all ← classItems fuel items
  let folded := if (← flags).caseInsensitive then caseFold all else normalize all
  return .cls (if negated then negate folded else folded)

def primitive : Read Expr := do
  let c ← cur
  let _ ← bump
  let fl ← flags
  match c with
  | some '\\' => escape
  | some '.' =>
    return .cls (if fl.dotAll then [(0, maxCode)]
      else if fl.crlf then [(0, 9), (11, 12), (14, maxCode)] else [(0, 9), (11, maxCode)])
  | some '^' =>
    return .look (if fl.multiLine then (if fl.crlf then .startLineCrlf else .startLine) else .start)
  | some '$' =>
    return .look (if fl.multiLine then (if fl.crlf then .endLineCrlf else .endLine) else .finish)
  | some c => charExpr c
  | none => throw errEscapeUnexpectedEnd

def setFlag (c : Char) (fl : Flags) (on : Bool) : Read Flags :=
  match c with
  | 'i' => pure { fl with caseInsensitive := on }
  | 'm' => pure { fl with multiLine := on }
  | 's' => pure { fl with dotAll := on }
  | 'U' => pure { fl with swapGreed := on }
  | 'R' => pure { fl with crlf := on }
  | 'x' => pure { fl with ignoreSpace := on }
  | 'u' => pure fl
  | _ => throw errFlagUnrecognized

def inlineFlags : Nat → Flags → Bool → Bool → List Char → Read Flags
  | 0, _, _, _, _ => throw errFlagUnexpectedEnd
  | fuel + 1, fl, negated, lastNegation, seen => do
    match ← cur with
    | none => throw errFlagUnexpectedEnd
    | some c =>
      if c == ':' || c == ')' then
        if lastNegation then throw errFlagDanglingNegation
        return fl
      let (fl, negated, lastNegation, seen) ← if c == '-' then do
          if negated then throw errFlagRepeatedNegation
          pure (fl, true, true, seen)
        else do
          let fl ← setFlag c fl (!negated)
          if seen.contains c then throw errFlagDuplicate
          pure (fl, negated, false, c :: seen)
      if !(← bump) then throw errFlagUnexpectedEnd
      inlineFlags fuel fl negated lastNegation seen

def isNameChar (c : Char) (first : Bool) : Bool :=
  let letter := c.isAlpha || (c.toNat ≥ 0xAA && Text.isPrintable c && !Text.isWhiteSpace c)
  if first then c == '_' || letter
  else c == '_' || c == '.' || c == '[' || c == ']' || letter || c.isDigit

def groupName : Read String := do
  if ← isDone then throw errMissingGroupName
  let s ← get
  let start := s.pos
  let rest := (s.text.extract start s.text.size).toList
  let name := rest.takeWhile (· != '>')
  let bad := (name.zip (List.range name.length)).find? fun (c, i) => !isNameChar c (i == 0)
  match bad with
  | some (_, i) =>
    modify fun s => { s with pos := start + i }
    throw errInvalidGroupName
  | none => pure ()
  if name.length == rest.length then
    modify fun s => { s with pos := s.text.size }
    throw errUnclosedGroupName
  modify fun s => { s with pos := start + name.length + 1 }
  if name.isEmpty then throw errEmptyGroupName
  let text := String.ofList name
  if (← get).names.contains text then throw errDuplicateName
  modify fun s => { s with names := s.names ++ [text] }
  return text

def nextCapture : Read Nat := do
  let s ← get
  set { s with captures := s.captures + 1 }
  return s.captures + 1

mutual
/-- Alternatives up to the end of the pattern or of the enclosing group. -/
def alternatives : Nat → Read Expr
  | 0 => throw errTooMuchNesting
  | fuel + 1 => do
    let s ← get
    if s.depth > nestLimit then throw errTooMuchNesting
    set { s with depth := s.depth + 1 }
    let e ← sequenceLoop fuel s.depth [] []
    modify fun s => { s with depth := s.depth - 1 }
    return e

/-- Reads atoms and operators into the current sequence and the alternatives before it. -/
def sequenceLoop : Nat → Nat → List Expr → List Expr → Read Expr
  | 0, _, _, _ => throw errTooMuchNesting
  | fuel + 1, depth, alts, concat => do
    bumpSpace
    match ← cur with
    | none => return Expr.choice (alts ++ [Expr.seq concat])
    | some '(' => do
      let saved ← flags
      let sub ← group fuel
      let concat ← match sub with
        | some e => do
          modify fun s => { s with flags := saved }
          pure (concat ++ [e])
        | none => pure concat
      if (← cur) != some ')' then throw errUnclosedGroup
      let _ ← bump
      sequenceLoop fuel depth alts concat
    | some ')' =>
      if depth == 0 then throw errUnopenedGroup
      return Expr.choice (alts ++ [Expr.seq concat])
    | some '|' => do
      let _ ← bump
      sequenceLoop fuel depth (alts ++ [Expr.seq concat]) []
    | some '[' => do
      let e ← bracketClass
      sequenceLoop fuel depth alts (concat ++ [e])
    | some '?' | some '*' | some '+' => do
      let concat ← uncountedRepetition concat
      sequenceLoop fuel depth alts concat
    | some '{' => do
      let concat ← countedRepetition concat
      sequenceLoop fuel depth alts concat
    | some _ => do
      let e ← primitive
      sequenceLoop fuel depth alts (concat ++ [e])

/-- A group, its parenthesis current: the group's expression, or nothing for a flag directive. -/
def group : Nat → Read (Option Expr)
  | 0 => throw errTooMuchNesting
  | fuel + 1 => do
    let _ ← bumpAndBumpSpace
    if ← bumpIf "?=" then throw errLookUnsupported
    if ← bumpIf "?!" then throw errLookUnsupported
    if ← bumpIf "?<=" then throw errLookUnsupported
    if ← bumpIf "?<!" then throw errLookUnsupported
    let named ← if ← bumpIf "?P<" then pure true else bumpIf "?<"
    if named then
      let index ← nextCapture
      let name ← groupName
      let sub ← alternatives fuel
      return some (.capture index (some name) sub)
    if ← bumpIf "?" then
      if ← isDone then throw errUnclosedGroupQuestion
      let start := (← get).pos
      let fl ← inlineFlags ((← get).text.size + 1) (← flags) false false []
      modify fun s => { s with flags := fl }
      let consumed := (← get).pos - start
      if (← cur) == some ')' then
        if consumed == 0 then throw errEmptyFlags
        return none
      let _ ← bump
      return some (← alternatives fuel)
    let index ← nextCapture
    let sub ← alternatives fuel
    return some (.capture index none sub)
end

end Read

/-- A compiled pattern: its expression, the number of its groups and their names. -/
structure Pattern where
  expr : Expr
  groups : Nat
  names : Array (Option String)
  deriving Inhabited

def groupNames (e : Expr) (groups : Nat) : Array (Option String) :=
  go e (Array.replicate (groups + 1) none)
where
  /-- Records the names of the groups inside an expression. -/
  go : Expr → Array (Option String) → Array (Option String)
    | .capture i name sub, acc => go sub (acc.setIfInBounds i name)
    | .rep _ _ _ sub, acc => go sub acc
    | .concat subs, acc => subs.attach.foldl (fun a ⟨s, _⟩ => go s a) acc
    | .alt subs, acc => subs.attach.foldl (fun a ⟨s, _⟩ => go s a) acc
    | _, acc => acc

/-- Reads a pattern under the given flags, or says why it is refused. -/
def Pattern.read (text : String) (fl : Flags) : Except String Pattern :=
  let cs := text.toList.toArray
  let run : Read Expr := do
    let e ← Read.alternatives (2 * cs.size + 8)
    if e.depth > nestLimit then throw errTooMuchNesting
    return e
  match run.run.run { text := cs, flags := fl } with
  | (.ok e, s) => .ok { expr := e, groups := s.captures, names := groupNames e s.captures }
  | (.error m, _) => .error m

end OpenApiGen.Jq.Regex
