import OpenApiGen.Pattern.Syntax
import OpenApiGen.Text.Blank
/-!
Reading a regular expression into its tree.
-/

namespace OpenApiGen.Pattern

abbrev isWhiteSpace : Char → Bool := Text.isWhiteSpace

/-- Letters and digits for group names: the ASCII ones, and outside ASCII every character that is
neither blank nor among the Latin-1 signs, general punctuation or CJK punctuation. -/
def isWordLetter (c : Char) : Bool :=
  let n := c.toNat
  if n < 0x80 then c.isAlphanum
  else
    !(isWhiteSpace c) && !(0x80 ≤ n && n ≤ 0xBF && n != 0xAA && n != 0xB5 && n != 0xBA) &&
      n != 0xD7 && n != 0xF7 && !(0x2000 ≤ n && n ≤ 0x206F) && !(0x3000 ≤ n && n ≤ 0x303F)

/-- The characters a group name may hold: a letter or `_` first, then also digits, `.`, `[`
and `]`. -/
def isNameChar (c : Char) (first : Bool) : Bool :=
  if first then c == '_' || (isWordLetter c && !c.isDigit)
  else c == '_' || c == '.' || c == '[' || c == ']' || isWordLetter c

/-- Characters with a meaning of their own, which an escape turns into themselves. -/
def isMetaChar (c : Char) : Bool :=
  "\\.+*?()|[]{}^$#&-~".contains c

/-- Characters that may be escaped to stand for themselves: the meta characters and every ASCII
character that is not a letter, a digit, `<` or `>`. -/
def isEscapable (c : Char) : Bool :=
  isMetaChar c || (c.toNat < 0x80 && !c.isAlphanum && c != '<' && c != '>')

def isHexDigit (c : Char) : Bool :=
  c.isDigit || ('a' ≤ c && c ≤ 'f') || ('A' ≤ c && c ≤ 'F')

def hexDigitValue (c : Char) : Nat :=
  if c.isDigit then c.toNat - '0'.toNat
  else if 'a' ≤ c && c ≤ 'f' then c.toNat - 'a'.toNat + 10
  else c.toNat - 'A'.toNat + 10

/-- The position of character `i` of a pattern: lines and columns count from one. -/
def positionIn (chars : Array Char) (i : Nat) : Position :=
  let (line, column) := (chars.toList.take i).foldl
    (fun (acc : Nat × Nat) ch => if ch == '\n' then (acc.1 + 1, 1) else (acc.1, acc.2 + 1)) (1, 1)
  ⟨i, line, column⟩

/-- The reader's state: the pattern, the place reached, whether blanks are skipped (the `x`
flag), and the group names met so far. -/
structure Reader where
  chars : Array Char
  index : Nat
  ignoreSpace : Bool := false
  names : List (String × Span) := []

/-- Reading a pattern: a state over the reader that may stop with a refusal. -/
abbrev Read := EStateM SyntaxError Reader

namespace Read

def here : Read Position := fun s => .ok (positionIn s.chars s.index) s

def current? : Read (Option Char) := fun s => .ok s.chars[s.index]? s

/-- The character at the place reached, or a blank at the end (never read there). -/
def current : Read Char := fun s => .ok (s.chars[s.index]?.getD ' ') s

def atEnd : Read Bool := fun s => .ok (s.chars.size ≤ s.index) s

def bump : Read Bool := fun s =>
  if s.index < s.chars.size then .ok (s.index + 1 < s.chars.size) { s with index := s.index + 1 }
  else .ok false s

def emptySpan : Read Span := do
  let p ← here
  pure ⟨p, p⟩

def charSpan : Read Span := fun s =>
  .ok ⟨positionIn s.chars s.index, positionIn s.chars (s.index + 1)⟩ s

def spanFrom (p : Position) : Read Span := do
  pure ⟨p, ← here⟩

def refuse {α : Type} (kind : ErrorKind) (span : Span) (aux : Option Span := none) : Read α :=
  throw { kind, span, aux }

def moveTo (i : Nat) : Read Unit := modify fun s => { s with index := i }

def bumpIf (t : String) : Read Bool := fun s =>
  let cs := t.toList
  if (s.chars.toList.drop s.index).take cs.length == cs then
    .ok true { s with index := s.index + cs.length }
  else .ok false s

/-- Moves past the first of `ts` that the pattern goes on with, if any. -/
def bumpAny : List String → Read Bool
  | [] => pure false
  | t :: rest => do
    if ← bumpIf t then return true
    bumpAny rest

/-- Skips a comment up to and with the end of its line. -/
def skipComment : Nat → Read Unit
  | 0 => pure ()
  | fuel + 1 => do
    match ← current? with
    | none => pure ()
    | some c =>
      let _ ← bump
      if c == '\n' then pure () else skipComment fuel

def skipBlanks : Nat → Read Unit
  | 0 => pure ()
  | fuel + 1 => do
    if !(← get).ignoreSpace then return
    match ← current? with
    | none => pure ()
    | some c =>
      if isWhiteSpace c then
        let _ ← bump
        skipBlanks fuel
      else if c == '#' then
        let _ ← bump
        skipComment ((← get).chars.size)
        skipBlanks fuel
      else pure ()

def bumpSpace : Read Unit := do
  skipBlanks ((← get).chars.size + 1)

/-- Moves past one character and any blanks after it; says whether the pattern goes on. -/
def bumpAndBumpSpace : Read Bool := do
  if !(← bump) then return false
  bumpSpace
  return !(← atEnd)

def peek : Read (Option Char) := fun s => .ok s.chars[s.index + 1]? s

/-- The first character after the current one that is no blank, when the `x` flag is on; a
comment's first visible character counts. Without such a character, the next one. -/
def peekSpace : Read (Option Char) := fun s =>
  if !s.ignoreSpace then .ok s.chars[s.index + 1]? s
  else if s.chars.size ≤ s.index then .ok none s
  else
    let rec scan : List Char → Bool → Option Char
      | [], _ => none
      | c :: rest, inComment =>
        if isWhiteSpace c then scan rest inComment
        else if !inComment && c == '#' then scan rest true
        else some c
    match scan (s.chars.toList.drop (s.index + 1)) false with
    | some c => .ok (some c) s
    | none => .ok s.chars[s.index + 1]? s

end Read

open Read

/-- The state of one flag after a list of flag items (`none` is the negation `-`): set if it
follows no negation, cleared if it does, unchanged if absent. -/
def flagState (items : List (Option Char × Span)) (flag : Char) : Option Bool :=
  let rec go : List (Option Char × Span) → Bool → Option Bool
    | [], _ => none
    | (none, _) :: rest, _ => go rest true
    | (some c, _) :: rest, negated => if c == flag then some !negated else go rest negated
  go items false

/-- Applies flag items to the reader, where only `x` matters: it skips blanks. -/
def applyFlags (items : List (Option Char × Span)) : Read Unit :=
  modify fun s => { s with ignoreSpace := (flagState items 'x').getD s.ignoreSpace }

/-- The changes that flag items make: each flag after a `-` is turned off, the others on. -/
def flagChanges (items : List (Option Char × Span)) : FlagChanges :=
  let rec go : List (Option Char × Span) → Bool → FlagChanges
    | [], _ => []
    | (none, _) :: rest, _ => go rest true
    | (some c, _) :: rest, negated => (c, !negated) :: go rest negated
  go items false

/-- Reads flag letters up to `:` or `)`, refusing unknown, repeated and dangling ones. -/
def readFlags : Nat → List (Option Char × Span) → Option Span → Read (List (Option Char × Span))
  | 0, items, _ => pure items
  | fuel + 1, items, lastNegation => do
    let c ← current
    if c == ':' || c == ')' then
      match lastNegation with
      | some sp => refuse .flagDanglingNegation sp
      | none => return items
    let sp ← charSpan
    let (items, lastNegation) ←
      if c == '-' then do
        match items.find? (fun i => i.1.isNone) with
        | some (_, original) => refuse .flagRepeatedNegation sp (some original)
        | none => pure (items ++ [(none, sp)], some sp)
      else do
        if !"imsUuRx".contains c then refuse .flagUnrecognized sp
        match items.find? (fun i => i.1 == some c) with
        | some (_, original) => refuse .flagDuplicate sp (some original)
        | none => pure (items ++ [(some c, sp)], none)
    if !(← bump) then refuse .flagUnexpectedEof (← emptySpan)
    readFlags fuel items lastNegation

def readNameChars : Nat → Nat → Read Unit
  | 0, _ => pure ()
  | fuel + 1, first => do
    let c ← current
    if c == '>' then return
    if !isNameChar c ((← get).index == first) then refuse .groupNameInvalid (← charSpan)
    if !(← bump) then return
    readNameChars fuel first

/-- Reads a group name and its closing `>`, refusing an empty or repeated name. -/
def readCaptureName : Read Unit := do
  if ← atEnd then refuse .groupNameUnexpectedEof (← emptySpan)
  let start ← here
  readNameChars ((← get).chars.size + 1) start.index
  let stop ← here
  if ← atEnd then refuse .groupNameUnexpectedEof (← emptySpan)
  let _ ← bump
  let name := String.ofList (((← get).chars.toList.drop start.index).take (stop.index - start.index))
  if name.isEmpty then refuse .groupNameEmpty ⟨start, start⟩
  let span : Span := ⟨start, stop⟩
  match (← get).names.find? (fun n => n.1 == name) with
  | some (_, original) => refuse .groupNameDuplicate span (some original)
  | none => modify fun s => { s with names := s.names ++ [(name, span)] }

/-- What an opening parenthesis starts: flags for the rest of the group, or a group. -/
inductive Opening where
  | setFlags (span : Span) (items : List (Option Char × Span))
  | group (open_ : Span) (capturing : Bool) (items : List (Option Char × Span))

def readOpening : Read Opening := do
  let open_ ← charSpan
  let _ ← bump
  bumpSpace
  if ← bumpAny ["?=", "?!", "?<=", "?<!"] then
    refuse .unsupportedLookAround (← spanFrom open_.start)
  let inner ← emptySpan
  if ← bumpAny ["?P<", "?<"] then
    readCaptureName
    return .group open_ true []
  if ← bumpIf "?" then
    if ← atEnd then refuse .groupUnclosed (← spanFrom open_.start)
    let items ← readFlags ((← get).chars.size + 1) [] none
    let last ← current
    let _ ← bump
    if last == ')' then
      if items.isEmpty then refuse .repetitionMissing inner
      return .setFlags (← spanFrom open_.start) items
    return .group open_ false items
  return .group open_ true []

def readHexDigits : Nat → Nat → Nat → Read Nat
  | 0, _, acc => pure acc
  | remaining + 1, i, acc => do
    if i > 0 then
      if !(← bumpAndBumpSpace) then refuse .escapeUnexpectedEof (← emptySpan)
    let c ← current
    if !isHexDigit c then refuse .escapeHexInvalidDigit (← charSpan)
    readHexDigits remaining (i + 1) (acc * 16 + hexDigitValue c)

def readHexBraced : Nat → List Char → Read (List Char)
  | 0, acc => pure acc
  | fuel + 1, acc => do
    if !(← bumpAndBumpSpace) then return acc
    let c ← current
    if c == '}' then return acc
    if !isHexDigit c then refuse .escapeHexInvalidDigit (← charSpan)
    readHexBraced fuel (acc ++ [c])

/-- The character of a code point, if it is a Unicode scalar value. -/
def scalar? (n : Nat) : Option Char :=
  if n < 0xD800 || (0xDFFF < n && n < 0x110000) then some (Char.ofNat n) else none

/-- Reads a hexadecimal escape after `\x`, `\u` or `\U`: a fixed number of digits (2, 4, 8) or
any number in braces. Only `\x` with two digits is marked as a byte. -/
def readHex (start : Position) (letter : Char) : Read (Span × Atom) := do
  if !(← bumpAndBumpSpace) then refuse .escapeUnexpectedEof (← emptySpan)
  let literalOf (span : Span) (c : Char) (fixed : Bool) : Span × Atom :=
    (span, .literal { span, char := c, hexByte := fixed && letter == 'x' })
  if (← current) == '{' then
    let bracePos ← here
    let afterBrace := positionIn (← get).chars (bracePos.index + 1)
    let digits ← readHexBraced ((← get).chars.size + 1) []
    if ← atEnd then refuse .escapeUnexpectedEof (← spanFrom bracePos)
    let stop ← here
    let _ ← bumpAndBumpSpace
    if digits.isEmpty then refuse .escapeHexEmpty (← spanFrom bracePos)
    let value := digits.foldl (fun acc c => acc * 16 + hexDigitValue c) 0
    match (if value < Nat.pow 2 32 then scalar? value else none) with
    | none => refuse .escapeHexInvalid ⟨afterBrace, stop⟩
    | some c => return literalOf (← spanFrom start) c false
  else
    let digitsStart ← here
    let count := if letter == 'x' then 2 else if letter == 'u' then 4 else 8
    let value ← readHexDigits count 0 0
    let _ ← bumpAndBumpSpace
    match scalar? value with
    | none => refuse .escapeHexInvalid (← spanFrom digitsStart)
    | some c => return literalOf (← spanFrom start) c true

def readBracedName : Nat → List Char → Read (List Char)
  | 0, acc => pure acc
  | fuel + 1, acc => do
    if !(← bumpAndBumpSpace) then return acc
    let c ← current
    if c == '}' then return acc
    readBracedName fuel (acc ++ [c])

def splitFirst (name sep : String) : Option (String × String) :=
  match name.splitOn sep with
  | [] | [_] => none
  | first :: rest => some (first, sep.intercalate rest)

/-- Reads a Unicode class after `\p` or `\P`: one letter, or a name in braces, possibly
`name=value`, `name:value` or `name!=value`. -/
def readProperty (start : Position) (letter : Char) : Read (Span × Atom) := do
  let negated := letter == 'P'
  if !(← bumpAndBumpSpace) then refuse .escapeUnexpectedEof (← emptySpan)
  if (← current) == '{' then
    let name := String.ofList (← readBracedName ((← get).chars.size + 1) [])
    if ← atEnd then refuse .escapeUnexpectedEof (← emptySpan)
    let _ ← bump
    let query : PropertyQuery :=
      match splitFirst name "!=" with
      | some (n, v) => .byValue n v false
      | none =>
        match splitFirst name ":" with
        | some (n, v) => .byValue n v true
        | none =>
          match splitFirst name "=" with
          | some (n, v) => .byValue n v true
          | none => .named name
    return (← spanFrom start, .property query negated)
  else
    let c ← current
    if c == '\\' then refuse .unicodeClassInvalid (← charSpan)
    let _ ← bumpAndBumpSpace
    return (← spanFrom start, .property (.oneLetter c) negated)

def readBoundaryName : Nat → List Char → Read (List Char)
  | 0, acc => pure acc
  | fuel + 1, acc => do
    let c ← current
    if (← atEnd) || !(c.isAlpha || c == '-') then return acc
    let _ ← bumpAndBumpSpace
    readBoundaryName fuel (acc ++ [c])

/-- After `\b` and at `{`: reads `{start}`, `{end}`, `{start-half}` or `{end-half}`. A brace
followed by anything but a letter or `-` is left for a repetition. -/
def readSpecialBoundary (start : Position) : Read (Option Assertion) := do
  let braceAt := (← get).index
  let brace ← here
  if !(← bumpAndBumpSpace) then refuse .specialWordOrRepetitionUnexpectedEof (← spanFrom start)
  let contents ← here
  let c ← current
  if !(c.isAlpha || c == '-') then
    moveTo braceAt
    return none
  let name := String.ofList (← readBoundaryName ((← get).chars.size + 1) [])
  if (← atEnd) || (← current) != '}' then refuse .specialWordBoundaryUnclosed (← spanFrom brace)
  let stop ← here
  let _ ← bump
  match name with
  | "start" => return some .wordStart
  | "end" => return some .wordEnd
  | "start-half" => return some .wordStartHalf
  | "end-half" => return some .wordEndHalf
  | _ => refuse .specialWordBoundaryUnrecognized ⟨contents, stop⟩

def readEscape : Read (Span × Atom) := do
  let start ← here
  if !(← bump) then refuse .escapeUnexpectedEof (← spanFrom start)
  let c ← current
  if c.isDigit then
    let sp ← charSpan
    refuse .unsupportedBackreference ⟨start, sp.stop⟩
  if c == 'x' || c == 'u' || c == 'U' then return ← readHex start c
  if c == 'p' || c == 'P' then return ← readProperty start c
  if "dswDSW".contains c then
    let _ ← bump
    let kind : PerlClass :=
      if c.toLower == 'd' then .digit else if c.toLower == 's' then .space else .word
    return (← spanFrom start, .perl kind c.isUpper)
  let _ ← bump
  let span ← spanFrom start
  let literal (ch : Char) : Span × Atom := (span, .literal { span, char := ch })
  if isEscapable c then return literal c
  match c with
  | 'a' => return literal (Char.ofNat 7)
  | 'f' => return literal (Char.ofNat 12)
  | 't' => return literal '\t'
  | 'n' => return literal '\n'
  | 'r' => return literal '\r'
  | 'v' => return literal (Char.ofNat 11)
  | 'A' => return (span, .assertion .startText)
  | 'z' => return (span, .assertion .endText)
  | 'B' => return (span, .assertion .notWordBoundary)
  | '<' => return (span, .assertion .wordStart)
  | '>' => return (span, .assertion .wordEnd)
  | 'b' =>
    if !(← atEnd) && (← current) == '{' then
      if let some kind ← readSpecialBoundary start then return (← spanFrom start, .assertion kind)
    return (span, .assertion .wordBoundary)
  | _ => refuse .escapeUnrecognized span

def skipWhiteSpace : Nat → Bool → Read Unit
  | 0, _ => pure ()
  | fuel + 1, withComments => do
    if (← atEnd) || !isWhiteSpace (← current) then return
    if withComments then
      let _ ← bumpAndBumpSpace
    else
      let _ ← bump
    skipWhiteSpace fuel withComments

def readDigits : Nat → List Char → Read (List Char)
  | 0, acc => pure acc
  | fuel + 1, acc => do
    if (← atEnd) || !(← current).isDigit then return acc
    let c ← current
    let _ ← bumpAndBumpSpace
    readDigits fuel (acc ++ [c])

/-- Reads a count of a repetition, with blanks around it; the count fits 32 bits. -/
def readDecimal : Read Nat := do
  let fuel := (← get).chars.size + 1
  skipWhiteSpace fuel false
  let start ← here
  let digits ← readDigits fuel []
  let span ← spanFrom start
  skipWhiteSpace fuel true
  if digits.isEmpty then refuse .repetitionCountDecimalEmpty span
  let value := digits.foldl (fun acc c => acc * 10 + (c.toNat - '0'.toNat)) 0
  if value ≥ Nat.pow 2 32 then refuse .decimalInvalid span
  return value

/-! ## Classes in brackets -/

/-- Reads an ASCII class `[:name:]` or `[:^name:]` at a `[` inside brackets; anything else
leaves the place unchanged. -/
def readAsciiClass : Read (Option ClassItem) := do
  let startAt := (← get).index
  let start ← here
  let giveUp : Read (Option ClassItem) := do
    moveTo startAt
    return none
  if !(← bump) || (← current) != ':' then return ← giveUp
  if !(← bump) then return ← giveUp
  let negated ← if (← current) == '^' then do
      if !(← bump) then return ← giveUp
      pure true
    else pure false
  let nameStart := (← get).index
  let rec skipName : Nat → Read Unit
    | 0 => pure ()
    | fuel + 1 => do
      if (← current) == ':' then return
      if !(← bump) then return
      skipName fuel
  skipName ((← get).chars.size + 1)
  if ← atEnd then return ← giveUp
  let name := String.ofList (((← get).chars.toList.drop nameStart).take ((← get).index - nameStart))
  if !(← bumpIf ":]") then return ← giveUp
  if !asciiClassNames.contains name then return ← giveUp
  return some (.ascii (← spanFrom start) name negated)

def readClassPrimitive : Read (Span × Atom) := do
  if (← current) == '\\' then readEscape
  else
    let sp ← charSpan
    let c ← current
    let _ ← bump
    return (sp, .literal { span := sp, char := c })

/-- A member read inside brackets as an item: assertions have no place there. -/
def classItemOf (sp : Span) : Atom → Read ClassItem
  | .assertion _ | .dot => refuse .classEscapeInvalid sp
  | a => pure (.atom sp a)

/-- A member as the end of a range: only a character will do. -/
def rangeEndOf (sp : Span) : Atom → Read Literal
  | .literal lit => pure lit
  | _ => refuse .classRangeLiteral sp

/-- Reads a member or a range `a-z` of a class whose opening bracket spans `open_`. -/
def readClassRange (open_ : Span) : Read ClassItem := do
  let (sp1, a1) ← readClassPrimitive
  bumpSpace
  if ← atEnd then refuse .classUnclosed open_
  let next ← peekSpace
  if (← current) != '-' || next == some ']' || next == some '-' then
    return ← classItemOf sp1 a1
  if !(← bumpAndBumpSpace) then refuse .classUnclosed open_
  let (sp2, a2) ← readClassPrimitive
  let span : Span := ⟨sp1.start, sp2.stop⟩
  let lo ← rangeEndOf sp1 a1
  let hi ← rangeEndOf sp2 a2
  if hi.char < lo.char then refuse .classRangeInvalid span
  return .range span lo hi

/-- Reads the opening of brackets: `[`, an optional `^`, and leading `-` or a first `]` taken as
themselves. Gives the span of the opening, the negation and the items read. -/
def readClassOpen : Read (Span × Bool × List ClassItem) := do
  let start ← here
  if !(← bumpAndBumpSpace) then refuse .classUnclosed (← spanFrom start)
  let negated ← if (← current) == '^' then do
      if !(← bumpAndBumpSpace) then refuse .classUnclosed (← spanFrom start)
      pure true
    else pure false
  let rec dashes : Nat → List ClassItem → Read (List ClassItem)
    | 0, acc => pure acc
    | fuel + 1, acc => do
      if (← current) != '-' then return acc
      let sp ← charSpan
      if !(← bumpAndBumpSpace) then refuse .classUnclosed ⟨start, start⟩
      dashes fuel (acc ++ [.atom sp (.literal { span := sp, char := '-' })])
  let items ← dashes ((← get).chars.size + 1) []
  let items ← if items.isEmpty && (← current) == ']' then do
      let sp ← charSpan
      if !(← bumpAndBumpSpace) then refuse .classUnclosed (← spanFrom start)
      pure [.atom sp (.literal { span := sp, char := ']' })]
    else pure items
  return (← spanFrom start, negated, items)

/-- The span of a union: from its first item to its last, or empty where it began. -/
def unionSpan (start : Position) (items : List ClassItem) : Span :=
  match items.head?, items.getLast? with
  | some a, some b => ⟨a.span.start, b.span.stop⟩
  | _, _ => ⟨start, start⟩

def joinPending (pending : Option (ClassSet × SetOp)) (rhs : ClassSet) : ClassSet :=
  match pending with
  | none => rhs
  | some (lhs, op) => .binary ⟨lhs.span.start, rhs.span.stop⟩ op lhs rhs

def SetOp.ofChar (c : Char) : SetOp :=
  if c == '&' then .intersection else if c == '-' then .difference else .symmetricDifference

/-- Reads the inside of brackets opened at `open_` up to and with the closing `]`.
`pending` is the set before an operator still waiting for its right side; `items` the union
being read, which began at `start`. -/
def readClassBody : Nat → Span → Option (ClassSet × SetOp) → Position → List ClassItem →
    Read ClassSet
  | 0, open_, _, _, _ => refuse .classUnclosed open_
  | fuel + 1, open_, pending, start, items => do
    bumpSpace
    if ← atEnd then refuse .classUnclosed open_
    let c ← current
    let next ← peek
    if c == '[' then
      match ← readAsciiClass with
      | some item => readClassBody fuel open_ pending start (items ++ [item])
      | none =>
        let begin ← here
        let (inner, negated, first) ← readClassOpen
        let set ← readClassBody fuel inner none (← here) first
        let item := ClassItem.bracketed (← spanFrom begin) negated set
        readClassBody fuel open_ pending start (items ++ [item])
    else if c == ']' then
      let set := joinPending pending (.union (unionSpan start items) items)
      let _ ← bump
      return set
    else if (c == '&' || c == '-' || c == '~') && next == some c then
      let set := joinPending pending (.union (unionSpan start items) items)
      let _ ← bump
      let _ ← bump
      readClassBody fuel open_ (some (set, SetOp.ofChar c)) (← here) []
    else
      let item ← readClassRange open_
      readClassBody fuel open_ pending start (items ++ [item])

def readClass : Read (Span × Bool × ClassSet) := do
  let begin ← here
  let (open_, negated, first) ← readClassOpen
  let set ← readClassBody ((← get).chars.size + 1) open_ none (← here) first
  return (← spanFrom begin, negated, set)

/-! ## Pieces, repetitions and groups -/

/-- Takes the last piece read for a repetition; there must be one, and not a flag setting. -/
def lastPiece (items : List Node) : Read (Node × List Node) := do
  match items with
  | [] => refuse .repetitionMissing (← emptySpan)
  | .flags _ _ :: _ => refuse .repetitionMissing (← emptySpan)
  | n :: rest => return (n, rest)

/-- Reads a repetition `?`, `*` or `+` of the last piece, with an optional `?`. -/
def readRepetition (items : List Node) (min : Nat) (max : Option Nat) : Read (List Node) := do
  let (piece, rest) ← lastPiece items
  if (← bump) && (← current) == '?' then
    let _ ← bump
  return .repetition (← spanFrom piece.span.start) min max piece :: rest

/-- Reads a counted repetition `{n}`, `{n,}` or `{n,m}` of the last piece. -/
def readCounted (items : List Node) : Read (List Node) := do
  let start ← here
  let (piece, rest) ← lastPiece items
  if !(← bumpAndBumpSpace) then refuse .repetitionCountUnclosed (← spanFrom start)
  let low ← readDecimal
  if ← atEnd then refuse .repetitionCountUnclosed (← spanFrom start)
  let high ← if (← current) == ',' then do
      if !(← bumpAndBumpSpace) then refuse .repetitionCountUnclosed (← spanFrom start)
      if (← current) != '}' then pure (some (some (← readDecimal))) else pure (some none)
    else pure none
  if (← atEnd) || (← current) != '}' then refuse .repetitionCountUnclosed (← spanFrom start)
  if (← bumpAndBumpSpace) && (← current) == '?' then
    let _ ← bump
  let opSpan ← spanFrom start
  let max : Option Nat := match high with
    | none => some low
    | some bound => bound
  if let some m := max then
    if m < low then refuse .repetitionCountInvalid opSpan
  return .repetition (← spanFrom piece.span.start) low max piece :: rest

/-- Reads one piece that stands alone: an escape, `.`, `^`, `$` or a character. -/
def readPrimitive : Read Node := do
  let c ← current
  if c == '\\' then
    let (sp, atom) ← readEscape
    return .atom sp atom
  let sp ← charSpan
  let _ ← bump
  let atom : Atom :=
    if c == '.' then .dot
    else if c == '^' then .assertion .startLine
    else if c == '$' then .assertion .endLine
    else .literal { span := sp, char := c }
  return .atom sp atom

/-- Finishes a sequence: the branches read (latest first), the start of the first branch and of
the current one, and the pieces of the current one (latest first). -/
def finishSequence (branches : List Node) (first start : Position) (items : List Node) :
    Read Node := do
  let stop ← here
  let branch := Node.ofConcat ⟨start, stop⟩ items.reverse
  if branches.isEmpty then return branch
  return .alternation ⟨first, stop⟩ (branches.reverse ++ [branch])

/-- Reads pieces up to the end of the pattern or, inside a group, up to its `)` (left in
place). `branches` are the alternatives before the last `|` (latest first), `first` where they
began, `start` where the current one began, `items` its pieces (latest first). -/
def readSequence : Nat → Bool → List Node → Position → Position → List Node → Read Node
  | 0, _, branches, first, start, items => finishSequence branches first start items
  | fuel + 1, inGroup, branches, first, start, items => do
    bumpSpace
    match ← current? with
    | none => finishSequence branches first start items
    | some c =>
      if c == ')' then
        if inGroup then finishSequence branches first start items
        else refuse .groupUnopened (← charSpan)
      else if c == '|' then
        let branch := Node.ofConcat (← spanFrom start) items.reverse
        let _ ← bump
        let next ← here
        readSequence fuel inGroup (branch :: branches) first next []
      else if c == '(' then
        match ← readOpening with
        | .setFlags sp flagItems =>
          applyFlags flagItems
          readSequence fuel inGroup branches first start (.flags sp (flagChanges flagItems) :: items)
        | .group open_ capturing flagItems =>
          let saved ← get
          applyFlags flagItems
          let bodyStart ← here
          let body ← readSequence fuel true [] bodyStart bodyStart []
          if ← atEnd then refuse .groupUnclosed open_
          let _ ← bump
          modify fun s => { s with ignoreSpace := saved.ignoreSpace }
          let group := Node.group (← spanFrom open_.start) capturing (flagChanges flagItems) body
          readSequence fuel inGroup branches first start (group :: items)
      else if c == '[' then
        let (sp, negated, set) ← readClass
        readSequence fuel inGroup branches first start (.bracketed sp negated set :: items)
      else if c == '?' then
        readSequence fuel inGroup branches first start (← readRepetition items 0 (some 1))
      else if c == '*' then
        readSequence fuel inGroup branches first start (← readRepetition items 0 none)
      else if c == '+' then
        readSequence fuel inGroup branches first start (← readRepetition items 1 none)
      else if c == '{' then
        readSequence fuel inGroup branches first start (← readCounted items)
      else
        let piece ← readPrimitive
        readSequence fuel inGroup branches first start (piece :: items)

/-! ## Nesting -/

/-- How deep pieces may nest: groups, repetitions, alternations, sequences and brackets each
count one level. -/
def nestLimit : Nat := 250

mutual
/-- The span of the first item, in reading order, that nests deeper than the limit. -/
def ClassItem.tooDeep (depth : Nat) : ClassItem → Option Span
  | .bracketed span _ set =>
    if depth + 1 > nestLimit then some span else set.tooDeep (depth + 1)
  | _ => none

/-- The span of the first part of a set that nests deeper than the limit. -/
def ClassSet.tooDeep (depth : Nat) : ClassSet → Option Span
  | .union span items =>
    if items.length < 2 then ClassItem.tooDeepList depth items
    else if depth + 1 > nestLimit then some span
    else ClassItem.tooDeepList (depth + 1) items
  | .binary span _ lhs rhs =>
    if depth + 1 > nestLimit then some span
    else (lhs.tooDeep (depth + 1)).orElse fun _ => rhs.tooDeep (depth + 1)

def ClassItem.tooDeepList (depth : Nat) : List ClassItem → Option Span
  | [] => none
  | item :: rest => (item.tooDeep depth).orElse fun _ => ClassItem.tooDeepList depth rest
end

mutual
/-- The span of the first piece, in reading order, that nests deeper than the limit. -/
def Node.tooDeep (depth : Nat) : Node → Option Span
  | .bracketed span _ set =>
    if depth + 1 > nestLimit then some span else set.tooDeep (depth + 1)
  | .group span _ _ body | .repetition span _ _ body =>
    if depth + 1 > nestLimit then some span else body.tooDeep (depth + 1)
  | .concat span items | .alternation span items =>
    if depth + 1 > nestLimit then some span else Node.tooDeepList (depth + 1) items
  | _ => none

def Node.tooDeepList (depth : Nat) : List Node → Option Span
  | [] => none
  | n :: rest => (n.tooDeep depth).orElse fun _ => Node.tooDeepList depth rest
end

/-- Reads a whole pattern into its tree, or gives the first fault. -/
def parse (pattern : String) : Except SyntaxError Node :=
  let chars := pattern.toList.toArray
  let reader : Reader := { chars, index := 0 }
  let origin := positionIn chars 0
  match (readSequence (chars.size + 2) false [] origin origin []).run reader with
  | .error e _ => .error e
  | .ok node _ =>
    match node.tooDeep 0 with
    | some span => .error { kind := .nestLimitExceeded nestLimit, span }
    | none => .ok node

end OpenApiGen.Pattern
