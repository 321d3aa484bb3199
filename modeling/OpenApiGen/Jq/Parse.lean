import OpenApiGen.Jq.Lex
/-!
Reading jq tokens into a term.
-/

namespace OpenApiGen.Jq

inductive ParseExpect where
  | just (s : String)
  | var
  | pattern
  | elseOrEnd
  | term
  | key
  | ident
  | arg
  | str
  | nothing
  deriving Inhabited

def ParseExpect.debug : ParseExpect → String
  | .just s => "Just(" ++ Text.debugString s ++ ")"
  | .var => "Var"
  | .pattern => "Pattern"
  | .elseOrEnd => "ElseOrEnd"
  | .term => "Term"
  | .key => "Key"
  | .ident => "Ident"
  | .arg => "Arg"
  | .str => "Str"
  | .nothing => "Nothing"

def keywords : List String :=
  ["include", "import", "def", "as", "and", "or", "try", "catch", "if", "then", "elif", "else",
    "end", "label", "break", "reduce", "foreach"]

/-- The parser's state: the tokens still to read and the refusals recorded inside blocks. -/
structure Parser where
  rest : List Token
  refusals : List (ParseExpect × String) := []

/-- Parsing: a refusal aborts up to the enclosing block, recorded refusals persist. -/
abbrev Parse := ExceptT (ParseExpect × String) (StateM Parser)

/-- Whether a token has the given text and is a symbol or a word. -/
def Token.is (t : Token) (s : String) : Bool :=
  match t with
  | .symbol x | .word x => x == s
  | _ => false

def BinaryOp.precedence : BinaryOp → Nat
  | .comma => 1
  | .alt => 2
  | .assign | .update | .updateMath _ | .updateAlt => 3
  | .or_ => 4
  | .and_ => 5
  | .cmp _ => 6
  | .math .add | .math .sub => 7
  | .math _ => 8

def BinaryOp.rightAssoc : BinaryOp → Bool
  | .alt | .assign | .update | .updateMath _ | .updateAlt | .cmp _ => true
  | _ => false

namespace Parse

def peek : Parse (Option Token) := do return (← get).rest.head?

def peek2 : Parse (Option Token) := do return ((← get).rest.drop 1).head?

def advance : Parse Unit := modify fun s => { s with rest := s.rest.drop 1 }

def found (t : Option Token) : String := (t.map Token.text).getD ""

def failHere {α : Type} (e : ParseExpect) : Parse α := do
  throw (e, found (← peek))

def at_ (s : String) : Parse Bool := do
  match ← peek with
  | some t => return t.is s
  | none => return false

def just (s : String) : Parse Unit := do
  if ← at_ s then advance else failHere (.just s)

/-- Checks that the tokens left are exactly `last` (nothing, when `last` is empty). -/
def verifyLast (last : String) : Parse Unit := do
  let ts := (← get).rest
  match ts with
  | [] => if last.isEmpty then pure () else throw (.just last, "")
  | [t] => if !last.isEmpty && t.is last then pure () else
      throw (if last.isEmpty then .nothing else .just last, t.text)
  | t :: _ => throw (if last.isEmpty then .nothing else .just last, t.text)

/-- Runs a parser, then checks the tokens left against `last`; a refusal is recorded and the
default stands in for the result. -/
def finish {α : Type} [Inhabited α] (last : String) (p : Parse α) : Parse α := do
  match ← ExceptT.run (do let r ← p; verifyLast last; pure r : Parse α) with
  | .ok r => pure r
  | .error e => do
    modify fun s => { s with refusals := s.refusals ++ [e] }
    pure default

/-- Runs a parser on the tokens of a block (see `finish`), then goes on after the block. -/
def within {α : Type} [Inhabited α] (inner : List Token) (last : String) (p : Parse α) :
    Parse α := do
  let saved := (← get).rest
  modify fun s => { s with rest := inner }
  let r ← finish last p
  modify fun s => { s with rest := saved }
  pure r

/-- The binary operator a token stands for, if any; `,` only where commas are allowed. -/
def binaryOp? (t : Token) (withComma : Bool) : Option BinaryOp :=
  match t with
  | .word "and" => some .and_
  | .word "or" => some .or_
  | .symbol s =>
    match s with
    | "," => if withComma then some .comma else none
    | "//" => some .alt
    | "=" => some .assign
    | "|=" => some .update
    | "+=" => some (.updateMath .add)
    | "-=" => some (.updateMath .sub)
    | "*=" => some (.updateMath .mul)
    | "/=" => some (.updateMath .div)
    | "%=" => some (.updateMath .rem)
    | "//=" => some .updateAlt
    | "==" => some (.cmp .eq)
    | "!=" => some (.cmp .ne)
    | "<" => some (.cmp .lt)
    | "<=" => some (.cmp .le)
    | ">" => some (.cmp .gt)
    | ">=" => some (.cmp .ge)
    | "+" => some (.math .add)
    | "-" => some (.math .sub)
    | "*" => some (.math .mul)
    | "/" => some (.math .div)
    | "%" => some (.math .rem)
    | _ => none
  | _ => none

/-- Groups a chain of operands by precedence: operators no looser than `minPrec` are taken. -/
def climb : Nat → Term → Nat → List (BinaryOp × Term) → Term × List (BinaryOp × Term)
  | 0, lhs, _, ts => (lhs, ts)
  | fuel + 1, lhs, minPrec, ts =>
    match ts with
    | [] => (lhs, [])
    | (op, rhs) :: rest =>
      if op.precedence < minPrec then (lhs, ts)
      else
        let next := if op.rightAssoc then op.precedence else op.precedence + 1
        let (rhs, rest) := climb fuel rhs next rest
        climb fuel (.binop lhs op rhs) minPrec rest

/-- The literal text of a string token without interpolation, if it is one. -/
def plainText (parts : List StringPiece) : Option String :=
  parts.foldl (fun acc p => match acc, p with
    | some s, .text t => some (s ++ t)
    | some s, .char c => some (s.push c)
    | _, _ => none) (some "")

mutual
/-- A pipe: a chain of operators with commas, then possibly `|` or `as … |` and another pipe. -/
def pipe : Nat → Parse Term
  | 0 => failHere .term
  | fuel + 1 => chain fuel true

/-- A chain of operands joined by operators, then possibly `|` or `as … |` and more. -/
def chain : Nat → Bool → Parse Term
  | 0, _ => failHere .term
  | fuel + 1, withComma => do
    let head ← term fuel
    let tail ← operands fuel withComma
    let (t, _) := climb (tail.length + 1) head 0 tail
    match ← peek with
    | some (.symbol "|") => do
      advance
      return .pipe t none (← chain fuel withComma)
    | some (.word "as") => do
      advance
      let pat ← pattern fuel
      just "|"
      return .pipe t (some pat) (← chain fuel withComma)
    | _ => pure t

def operands : Nat → Bool → Parse (List (BinaryOp × Term))
  | 0, _ => pure []
  | fuel + 1, withComma => do
    match ← peek with
    | some t =>
      match binaryOp? t withComma with
      | some op => do
        advance
        let rhs ← term fuel
        return (op, rhs) :: (← operands fuel withComma)
      | none => pure []
    | none => pure []

def term : Nat → Parse Term
  | 0 => failHere .term
  | fuel + 1 => do
    let head ← atom fuel
    let parts ← pathParts fuel
    if parts.isEmpty then
      let n ← questionMarks fuel
      return (List.range n).foldl (fun t _ => .tryCatch t none) head
    else
      match head with
      | .path h ps => return .path h (ps ++ parts)
      | _ => return .path head parts

def questionMarks : Nat → Parse Nat
  | 0 => pure 0
  | fuel + 1 => do
    if ← at_ "?" then do advance; return (← questionMarks fuel) + 1 else pure 0

def pathParts : Nat → Parse (List (PathPart × Bool))
  | 0 => pure []
  | fuel + 1 => do
    let step : Option PathPart ← match ← peek with
      | some (.block text inner) =>
        if text.startsWith "[" then do
          advance
          pure (some (← within inner "]" (pathPart fuel)))
        else pure none
      | some (.symbol ".") => do
        match ← peek2 with
        | some (.block text inner) =>
          if text.startsWith "[" then do
            advance
            advance
            pure (some (← within inner "]" (pathPart fuel)))
          else do
            advance
            failHere .key
        | some (.string _ parts) => do
          advance
          advance
          pure (some (.index (.str none (← stringParts fuel parts))))
        | _ => do
          advance
          failHere .key
      | some (.symbol s) =>
        if s.startsWith "." && s != ".." then do
          advance
          pure (some (.index (.str none [.text (String.ofList (s.toList.drop 1))])))
        else pure none
      | _ => pure none
    match step with
    | none => pure []
    | some p => do
      let optional := (← questionMarks fuel) > 0
      return (p, optional) :: (← pathParts fuel)

/-- The inside of a step in brackets: nothing, an index, or a slice. -/
def pathPart : Nat → Parse PathPart
  | 0 => failHere .term
  | fuel + 1 => do
    let atClose : Parse Bool := do
      match (← get).rest with
      | [t] => return t.is "]"
      | _ => return false
    if ← atClose then return .iterate
    if ← at_ ":" then do
      advance
      return .slice none (some (← pipe fuel))
    let lo ← pipe fuel
    if ← at_ ":" then do
      advance
      if ← atClose then return .slice (some lo) none
      return .slice (some lo) (some (← pipe fuel))
    return .index lo

def stringParts : Nat → List StringPiece → Parse (List StrPart)
  | 0, _ => pure []
  | _ + 1, [] => pure []
  | fuel + 1, p :: rest => do
    let part ← match p with
      | .text s => pure (StrPart.text s)
      | .char c => pure (StrPart.text (String.singleton c))
      | .interp (.block _ inner) => do pure (StrPart.interp (← within inner ")" (pipe fuel)))
      | .interp _ => pure (StrPart.text "")
    return part :: (← stringParts fuel rest)

def callArgs : Nat → Parse (List Term)
  | 0 => pure []
  | fuel + 1 => do
    match ← peek with
    | some (.block text inner) =>
      if text.startsWith "(" then do
        advance
        within inner ")" (separated fuel)
      else pure []
    | _ => pure []

def separated : Nat → Parse (List Term)
  | 0 => pure []
  | fuel + 1 => do
    let t ← pipe fuel
    if ← at_ ";" then do
      advance
      return t :: (← separated fuel)
    return [t]

def varName : Parse String := do
  match ← peek with
  | some (.var x) => do advance; pure x
  | _ => failHere .var

def atom : Nat → Parse Term
  | 0 => failHere .term
  | fuel + 1 => do
    match ← peek with
    | none => failHere .term
    | some t =>
      match t with
      | .var x => do advance; pure (.var x)
      | .format f => do
        advance
        match ← peek with
        | some (.string _ parts) => do advance; pure (.str (some f) (← stringParts fuel parts))
        | _ => pure (.call f [])
      | .symbol ".." => do advance; pure .recurse
      | .symbol "." => do
        advance
        match ← peek with
        | some (.string _ parts) => do
          advance
          pure (.path .id [(.index (.str none (← stringParts fuel parts)), (← questionMarks fuel) > 0)])
        | _ => pure .id
      | .symbol s =>
        if s.startsWith "." then do
          advance
          let key : Term := .str none [.text (String.ofList (s.toList.drop 1))]
          pure (.path .id [(.index key, (← questionMarks fuel) > 0)])
        else if s == "-" then do
          advance
          pure (.neg (← term fuel))
        else failHere .term
      | .number n => do advance; pure (.num n)
      | .string _ parts => do advance; pure (.str none (← stringParts fuel parts))
      | .block text inner => do
        advance
        if text.startsWith "[" then
          match inner with
          | [only] => if only.is "]" then pure (.arr none) else
              pure (.arr (some (← within inner "]" (pipe fuel))))
          | _ => pure (.arr (some (← within inner "]" (pipe fuel))))
        else if text.startsWith "\x7b" then
          match inner with
          | [only] => if only.is "\x7d" then pure (.obj []) else
              pure (.obj (← within inner "" (objectItems fuel)))
          | _ => pure (.obj (← within inner "" (objectItems fuel)))
        else within inner ")" (pipe fuel)
      | .word w =>
        if w == "def" then do
          advance
          let first ← definition fuel
          let more ← definitions fuel
          return .defs (first :: more) (← pipe fuel)
        else if w == "if" then do
          advance
          conditional fuel
        else if w == "try" then do
          advance
          let body ← term fuel
          if ← at_ "catch" then do
            advance
            return .tryCatch body (some (← term fuel))
          return .tryCatch body none
        else if w == "label" then do
          advance
          let x ← varName
          just "|"
          return .label x (← pipe fuel)
        else if w == "break" then do
          advance
          return .breakTo (← varName)
        else if w == "reduce" || w == "foreach" then do
          advance
          let source ← term fuel
          just "as"
          let pat ← pattern fuel
          return .fold w source pat (← callArgs fuel)
        else if keywords.contains w then failHere .term
        else do
          advance
          return .call w (← callArgs fuel)

def conditional : Nat → Parse Term
  | 0 => failHere .term
  | fuel + 1 => do
    let cond ← pipe fuel
    just "then"
    let yes ← pipe fuel
    branches fuel [(cond, yes)]

def branches : Nat → List (Term × Term) → Parse Term
  | 0, _ => failHere .elseOrEnd
  | fuel + 1, acc => do
    match ← peek with
    | some (.word "elif") => do
      advance
      let cond ← pipe fuel
      just "then"
      let yes ← pipe fuel
      branches fuel (acc ++ [(cond, yes)])
    | some (.word "else") => do
      advance
      let no ← pipe fuel
      just "end"
      return .ite acc (some no)
    | some (.word "end") => do
      advance
      return .ite acc none
    | _ => failHere .elseOrEnd

def definition : Nat → Parse Def
  | 0 => failHere .ident
  | fuel + 1 => do
    let name ← match ← peek with
      | some (.word w) => if keywords.contains w then failHere .ident else do advance; pure w
      | _ => failHere .ident
    let params ← match ← peek with
      | some (.block text inner) =>
        if text.startsWith "(" then do
          advance
          within inner ")" (parameters fuel)
        else pure []
      | _ => pure []
    just ":"
    let body ← pipe fuel
    just ";"
    return .mk name params body

def definitions : Nat → Parse (List Def)
  | 0 => pure []
  | fuel + 1 => do
    if ← at_ "def" then do
      advance
      let d ← definition fuel
      return d :: (← definitions fuel)
    return []

def parameters : Nat → Parse (List String)
  | 0 => failHere .arg
  | fuel + 1 => do
    let p ← match ← peek with
      | some (.var x) => do advance; pure x
      | some (.word w) => if keywords.contains w then failHere .arg else do advance; pure w
      | _ => failHere .arg
    if ← at_ ";" then do
      advance
      return p :: (← parameters fuel)
    return [p]

def objectItems : Nat → Parse (List (Term × Option Term))
  | 0 => failHere .key
  | fuel + 1 => do
    let e ← objectEntry fuel
    moreEntries fuel [e]

/-- Further entries after the first: `,` and another entry, possibly a last `,`, then the closing
brace. -/
def moreEntries : Nat → List (Term × Option Term) → Parse (List (Term × Option Term))
  | 0, acc => pure acc
  | fuel + 1, acc => do
    match ← peek with
    | some t =>
      if t.is "," then do
        advance
        if ← at_ "\x7d" then do
          advance
          pure acc
        else do
          let e ← objectEntry fuel
          moreEntries fuel (acc ++ [e])
      else if t.is "\x7d" then do
        advance
        pure acc
      else failHere (.just "\x7d")
    | none => failHere (.just "\x7d")

/-- One entry of an object construction: a key and, after `:`, its value. -/
def objectEntry : Nat → Parse (Term × Option Term)
  | 0 => failHere .key
  | fuel + 1 => do
    let key ← match ← peek with
      | some (.var x) => do advance; pure (Term.var x)
      | some (.word w) => do advance; pure (Term.str none [.text w])
      | some (.format f) => do
        advance
        match ← peek with
        | some (.string _ parts) => do advance; pure (Term.str (some f) (← stringParts fuel parts))
        | _ => failHere .str
      | some (.string _ parts) => do advance; pure (Term.str none (← stringParts fuel parts))
      | some (.block text inner) =>
        if text.startsWith "(" then do
          advance
          within inner ")" (pipe fuel)
        else failHere .key
      | _ => failHere .key
    if ← at_ ":" then do
      advance
      return (key, some (← chain fuel false))
    return (key, none)

def pattern : Nat → Parse Pattern
  | 0 => failHere .pattern
  | fuel + 1 => do
    match ← peek with
    | some (.var x) => do advance; pure (.var x)
    | some (.block text inner) =>
      if text.startsWith "[" then do
        advance
        return .arr (← within inner "" (patternItems fuel))
      else if text.startsWith "\x7b" then do
        advance
        return .obj (← within inner "" (patternEntries fuel))
      else failHere .pattern
    | _ => failHere .pattern

/-- Patterns of an array pattern separated by `,`, with the closing bracket. -/
def patternItems : Nat → Parse (List Pattern)
  | 0 => failHere .pattern
  | fuel + 1 => do
    let p ← pattern fuel
    match ← peek with
    | some t =>
      if t.is "," then do
        advance
        return p :: (← patternItems fuel)
      else if t.is "]" then do
        advance
        return [p]
      else failHere (.just "]")
    | none => failHere (.just "]")

def patternEntries : Nat → Parse (List (Term × Option Pattern))
  | 0 => failHere .pattern
  | fuel + 1 => do
    let e ← patternEntry fuel
    morePatternEntries fuel [e]

def morePatternEntries : Nat → List (Term × Option Pattern) →
    Parse (List (Term × Option Pattern))
  | 0, acc => pure acc
  | fuel + 1, acc => do
    match ← peek with
    | some t =>
      if t.is "," then do
        advance
        if ← at_ "\x7d" then do
          advance
          pure acc
        else do
          let e ← patternEntry fuel
          morePatternEntries fuel (acc ++ [e])
      else if t.is "\x7d" then do
        advance
        pure acc
      else failHere (.just "\x7d")
    | none => failHere (.just "\x7d")

def patternEntry : Nat → Parse (Term × Option Pattern)
  | 0 => failHere .key
  | fuel + 1 => do
    match ← peek with
    | some (.var x) => do
      advance
      if ← at_ ":" then do
        advance
        return (.var x, some (← pattern fuel))
      return (.var x, none)
    | _ => do
      let key ← match ← peek with
        | some (.word w) => do advance; pure (Term.str none [.text w])
        | some (.string _ parts) => do advance; pure (Term.str none (← stringParts fuel parts))
        | some (.block text inner) =>
          if text.startsWith "(" then do
            advance
            within inner ")" (pipe fuel)
          else failHere .key
        | _ => failHere .key
      just ":"
      return (key, some (← pattern fuel))
end

/-- A dependency line after `import` or `include`: a path, for `import` a name after `as`, and
`;`. -/
def dependency (fuel : Nat) (isImport : Bool) : Parse Dependency := do
  let path ← match ← peek with
    | some (.string _ parts) =>
      match plainText parts with
      | some s => do advance; pure s
      | none => failHere .str
    | _ => failHere .str
  if isImport then do
    just "as"
    match ← peek with
    | some (.var _) | some (.word _) => advance
    | _ => failHere .ident
  if !(← at_ ";") then
    let _ ← term fuel
  just ";"
  return { path }

def dependencies : Nat → Parse (List Dependency)
  | 0 => pure []
  | fuel + 1 => do
    match ← peek with
    | some (.word "import") => do
      advance
      let d ← dependency fuel true
      return d :: (← dependencies fuel)
    | some (.word "include") => do
      advance
      let d ← dependency fuel false
      return d :: (← dependencies fuel)
    | _ => pure []

end Parse

/-- The number of tokens in a list, blocks and strings counted with their insides. -/
def tokenWeight (ts : List Token) : Nat := ts.foldl (fun acc t => acc + t.text.length + 1) 0

def parseModule (ts : List Token) : Except (List (ParseExpect × String)) Module :=
  let fuel := 8 * tokenWeight ts + 16
  let whole : Parse Module := Parse.finish "" (do
    let deps ← Parse.dependencies fuel
    let body ← Parse.pipe fuel
    return { deps, body })
  let (r, st) := (whole.run).run { rest := ts }
  match r with
  | .ok m => if st.refusals.isEmpty then .ok m else .error st.refusals
  | .error e => .error (st.refusals ++ [e])

end OpenApiGen.Jq
