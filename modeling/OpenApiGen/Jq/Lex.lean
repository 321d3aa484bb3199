import OpenApiGen.Jq.Syntax
import OpenApiGen.Text.Blank
/-!
Splitting a jq program into tokens.
-/

namespace OpenApiGen.Jq

/-- What the lexer expected: a digit, an identifier, the partner of an opening bracket or quote,
an escape, four hexadecimal digits of a character, or a token. -/
inductive LexExpect where
  | digit
  | ident
  | delim (open_ : String)
  | escape
  | unicode
  | token
  deriving Inhabited

def LexExpect.debug : LexExpect → String
  | .digit => "Digit"
  | .ident => "Ident"
  | .delim o => "Delim(" ++ Text.debugString o ++ ")"
  | .escape => "Escape"
  | .unicode => "Unicode"
  | .token => "Token"

/-- The lexer's state: the text still to read and the problems met. -/
structure Lexer where
  rest : List Char
  problems : List (LexExpect × String) := []

abbrev Lex := StateM Lexer

namespace Lex

def rest : Lex (List Char) := do return (← get).rest

def setRest (r : List Char) : Lex Unit := modify fun s => { s with rest := r }

def expectedAt (e : LexExpect) (at_ : List Char) : Lex Unit :=
  modify fun s => { s with problems := s.problems ++ [(e, String.ofList at_)] }

def expected (e : LexExpect) : Lex Unit := do expectedAt e (← rest)

def isIdentStart (c : Char) : Bool := c.isAlpha || c == '_'

def isIdentChar (c : Char) : Bool := c.isAlphanum || c == '_'

def isOpChar (c : Char) : Bool := "|=!<>+-*/%".contains c

def consumed (before after : List Char) : String :=
  String.ofList (before.take (before.length - after.length))

mutual
def dropSpace : List Char → List Char
  | [] => []
  | c :: more =>
    if Text.isWhiteSpace c then dropSpace more
    else if c == '#' then dropComment more
    else c :: more

def dropComment : List Char → List Char
  | [] => []
  | c :: more => if c == '\n' then dropSpace more else dropComment more
end

def space : Lex Unit := do setRest (dropSpace (← rest))

def ident0 : Lex Unit := do setRest ((← rest).dropWhile isIdentChar)

def ident1 : Lex Unit := do
  match ← rest with
  | c :: more => if isIdentStart c then do setRest more; ident0 else expected .ident
  | [] => expected .ident

def word : Lex Unit := do
  ident0
  match ← rest with
  | ':' :: ':' :: more => do setRest more; ident1
  | _ => pure ()

def digits1 : Lex Unit := do
  match ← rest with
  | c :: _ => if c.isDigit then setRest ((← rest).dropWhile Char.isDigit) else expected .digit
  | [] => expected .digit

def number : Lex Unit := do
  digits1
  match ← rest with
  | '.' :: more => do setRest more; digits1
  | _ => pure ()
  match ← rest with
  | c :: more =>
    if c == 'e' || c == 'E' then do
      match more with
      | '+' :: m | '-' :: m => setRest m
      | m => setRest m
      digits1
  | [] => pure ()

def hexValue? (c : Char) : Option Nat :=
  if c.isDigit then some (c.toNat - '0'.toNat)
  else if 'a' ≤ c && c ≤ 'f' then some (c.toNat - 'a'.toNat + 10)
  else if 'A' ≤ c && c ≤ 'F' then some (c.toNat - 'A'.toNat + 10)
  else none

/-- Reads up to four hexadecimal digits: their value, or the text at the first that is not
one. -/
def hexDigits : Nat → Nat → List Char → Except (List Char) (Nat × List Char)
  | 0, acc, cs => .ok (acc, cs)
  | n + 1, acc, cs =>
    match cs with
    | c :: more =>
      match hexValue? c with
      | some d => hexDigits n (acc * 16 + d) more
      | none => .error cs
    | [] => .error cs

def isScalar (n : Nat) : Bool := n < 0xD800 || (0xDFFF < n && n < 0x110000)

def closing (open_ : Char) : Char :=
  if open_ == '(' then ')' else if open_ == '[' then ']' else '}'

mutual
/-- Reads tokens up to the end, or up to something that starts no token. -/
def tokens : Nat → Lex (List Token)
  | 0 => pure []
  | fuel + 1 => do
    match ← token fuel with
    | none => pure []
    | some t => return t :: (← tokens fuel)

def token : Nat → Lex (Option Token)
  | 0 => pure none
  | fuel + 1 => do
    space
    let before ← rest
    match before with
    | [] => pure none
    | c :: more =>
      if isIdentStart c then do
        setRest more
        word
        return some (.word (consumed before (← rest)))
      else if c == '$' || c == '@' then do
        setRest more
        ident1
        let text := consumed before (← rest)
        return some (if c == '$' then .var text else .format text)
      else if c.isDigit then do
        number
        return some (.number (consumed before (← rest)))
      else if isOpChar c then do
        setRest (more.dropWhile isOpChar)
        return some (.symbol (consumed before (← rest)))
      else if c == '.' then do
        match more with
        | '.' :: m => setRest m
        | d :: m => if isIdentStart d then setRest (m.dropWhile isIdentChar) else setRest more
        | [] => setRest more
        return some (.symbol (consumed before (← rest)))
      else if c == ':' || c == ';' || c == ',' || c == '?' then do
        setRest more
        return some (.symbol (String.singleton c))
      else if c == '"' then do
        setRest more
        let parts ← stringPieces fuel []
        return some (.string (consumed before (← rest)) parts)
      else if c == '(' || c == '[' || c == '{' then do
        setRest more
        let inner ← block fuel c
        return some (.block (consumed before (← rest)) inner)
      else pure none

/-- Reads the tokens of a block after its opening bracket, with the closing bracket. -/
def block : Nat → Char → Lex (List Token)
  | 0, _ => pure []
  | fuel + 1, open_ => do
    let inner ← tokens fuel
    space
    match ← rest with
    | c :: more =>
      if c == closing open_ then do
        setRest more
        return inner ++ [.symbol (String.singleton c)]
      else do
        expected (.delim (String.singleton open_))
        return inner
    | [] => do
      expected (.delim (String.singleton open_))
      return inner

/-- Reads the pieces of a string after its opening quote, with the closing quote. -/
def stringPieces : Nat → List StringPiece → Lex (List StringPiece)
  | 0, acc => pure acc
  | fuel + 1, acc => do
    let r ← rest
    let plain := r.takeWhile (fun c => c != '\\' && c != '"')
    let acc := if plain.isEmpty then acc else acc ++ [.text (String.ofList plain)]
    let r := r.drop plain.length
    setRest r
    match r with
    | '"' :: more => do
      setRest more
      pure acc
    | '\\' :: more => do
      setRest more
      match ← escape fuel with
      | some part => stringPieces fuel (acc ++ [part])
      | none => stringPieces fuel acc
    | _ => do
      expectedAt (.delim "\"") r
      pure acc

def escape : Nat → Lex (Option StringPiece)
  | 0 => pure none
  | fuel + 1 => do
    let r ← rest
    let simple (c : Char) (more : List Char) : Lex (Option StringPiece) := do
      setRest more
      return some (.char c)
    match r with
    | '\\' :: more => simple '\\' more
    | '/' :: more => simple '/' more
    | '"' :: more => simple '"' more
    | 'b' :: more => simple (Char.ofNat 8) more
    | 'f' :: more => simple (Char.ofNat 12) more
    | 'n' :: more => simple '\n' more
    | 'r' :: more => simple '\r' more
    | 't' :: more => simple '\t' more
    | 'u' :: more =>
      match hexDigits 4 0 more with
      | .error at_ => do
        setRest at_
        expected .unicode
        return none
      | .ok (n, after) =>
        if isScalar n then simple (Char.ofNat n) after
        else do
          expectedAt .unicode more
          return none
    | '(' :: more => do
      setRest more
      let inner ← block fuel '('
      return some (.interp (.block (consumed r (← rest)) inner))
    | _ => do
      expected .escape
      return none
end

end Lex

def lex (program : String) : Except (List (LexExpect × String)) (List Token) :=
  let fuel := 4 * program.length + 8
  let run : Lex (List Token) := do
    let ts ← Lex.tokens fuel
    Lex.space
    if !(← Lex.rest).isEmpty then Lex.expected .token
    return ts
  let (ts, st) := run.run { rest := program.toList }
  if st.problems.isEmpty then .ok ts else .error st.problems

end OpenApiGen.Jq
