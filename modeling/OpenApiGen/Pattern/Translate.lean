import OpenApiGen.Pattern.Parse
import OpenApiGen.Pattern.Property
import OpenApiGen.Pattern.Expr
/-!
From the tree of a pattern to what it means.
-/

namespace OpenApiGen.Pattern

open Unicode

/-- The flags that decide what pieces mean. -/
structure Flags where
  caseInsensitive : Bool := false
  multiLine : Bool := false
  dotAll : Bool := false
  crlf : Bool := false
  unicode : Bool := true
  deriving Inhabited

def Flags.apply (f : Flags) : FlagChanges → Flags
  | [] => f
  | (c, on) :: rest =>
    let f := match c with
      | 'i' => { f with caseInsensitive := on }
      | 'm' => { f with multiLine := on }
      | 's' => { f with dotAll := on }
      | 'R' => { f with crlf := on }
      | 'u' => { f with unicode := on }
      | _ => f
    f.apply rest

abbrev Translate := StateT Flags (Except SyntaxError)

def refuseAt {α : Type} (kind : ErrorKind) (span : Span) : Translate α := throw { kind, span }

def asciiRanges : String → Ranges
  | "alnum" => [(0x30, 0x39), (0x41, 0x5A), (0x61, 0x7A)]
  | "alpha" => [(0x41, 0x5A), (0x61, 0x7A)]
  | "ascii" => [(0, 0x7F)]
  | "blank" => [(0x09, 0x09), (0x20, 0x20)]
  | "cntrl" => [(0, 0x1F), (0x7F, 0x7F)]
  | "digit" => [(0x30, 0x39)]
  | "graph" => [(0x21, 0x7E)]
  | "lower" => [(0x61, 0x7A)]
  | "print" => [(0x20, 0x7E)]
  | "punct" => [(0x21, 0x2F), (0x3A, 0x40), (0x5B, 0x60), (0x7B, 0x7E)]
  | "space" => [(0x09, 0x0D), (0x20, 0x20)]
  | "upper" => [(0x41, 0x5A)]
  | "word" => [(0x30, 0x39), (0x41, 0x5A), (0x5F, 0x5F), (0x61, 0x7A)]
  | "xdigit" => [(0x30, 0x39), (0x41, 0x46), (0x61, 0x66)]
  | _ => []

/-- A Perl class over Unicode: decimal numbers, white space, or word characters (letters, marks,
decimal numbers, connector punctuation and joiners). -/
def perlUnicode : PerlClass → Ranges
  | .digit => categoryRanges ["Nd"]
  | .space => (binaryRanges? "White_Space").getD []
  | .word =>
    Ranges.union (Ranges.union ((binaryRanges? "Alphabetic").getD [])
      (categoryRanges ["Mn", "Mc", "Me", "Nd", "Pc"])) ((binaryRanges? "Join_Control").getD [])

def perlAscii : PerlClass → Ranges
  | .digit => asciiRanges "digit"
  | .space => asciiRanges "space"
  | .word => asciiRanges "word"

/-- Folds case if the flag asks, then negates if asked; with Unicode matching off the result must
stay within ASCII. -/
def foldAndNegate (span : Span) (negated : Bool) (rs : Ranges) : Translate Ranges := do
  let f ← get
  let rs := if f.caseInsensitive then caseFold f.unicode rs else rs
  let rs := if negated then negate f.unicode rs else rs
  if !f.unicode && !isAscii rs then refuseAt .invalidUtf8 span
  pure rs

def perlClass (span : Span) (kind : PerlClass) (negated : Bool) : Translate Ranges := do
  if (← get).unicode then
    let rs := perlUnicode kind
    pure (if negated then negate true rs else rs)
  else
    let rs := perlAscii kind
    let rs := if negated then negate false rs else rs
    if !isAscii rs then refuseAt .invalidUtf8 span
    pure rs

/-- A Unicode class, refused with Unicode matching off or for an unknown name. -/
def propertyClass (span : Span) (query : PropertyQuery) (negated : Bool) : Translate Ranges := do
  if !(← get).unicode then refuseAt .unicodeNotAllowed span
  match query.resolve with
  | .error kind => refuseAt kind span
  | .ok rs =>
    let f ← get
    let rs := if f.caseInsensitive then caseFold true rs else rs
    pure (if negated != query.isNotEqual then negate true rs else rs)

/-- A character of a class as a byte, with Unicode matching off: it must be ASCII, and a byte
`\xNN` from 0x80 on could match invalid UTF-8. -/
def classByte (lit : Literal) : Translate Nat := do
  let n := lit.char.toNat
  if lit.hexByte && n ≥ 0x80 then refuseAt .invalidUtf8 lit.span
  if n ≥ 0x80 then refuseAt .unicodeNotAllowed lit.span
  pure n

def classMember (lit : Literal) : Translate Nat := do
  if (← get).unicode then pure lit.char.toNat else classByte lit

mutual
def ClassItem.members : ClassItem → Translate Ranges
  | .atom _ (.literal lit) => do
    let n ← classMember lit
    pure [(n, n)]
  | .atom span (.perl kind negated) => perlClass span kind negated
  | .atom span (.property query negated) => propertyClass span query negated
  | .atom _ _ => pure []
  | .range _ lo hi => do
    let a ← classMember lo
    let b ← classMember hi
    pure (classOf (← get).unicode [(a, b)])
  | .ascii span name negated => foldAndNegate span negated (asciiRanges name)
  | .bracketed span negated set => do
    let rs ← set.members
    foldAndNegate span negated rs

def ClassSet.members : ClassSet → Translate Ranges
  | .union _ items => ClassItem.unionMembers items []
  | .binary _ op lhs rhs => do
    let l ← lhs.members
    let r ← rhs.members
    let f ← get
    let l := if f.caseInsensitive then caseFold f.unicode l else l
    let r := if f.caseInsensitive then caseFold f.unicode r else r
    pure (match op with
      | .intersection => Ranges.inter l r
      | .difference => Ranges.diff l r
      | .symmetricDifference => symmetricDifference l r)

/-- The members of a list of items, added to those of the items before. -/
def ClassItem.unionMembers : List ClassItem → Ranges → Translate Ranges
  | [], acc => pure acc
  | item :: rest, acc => do
    let rs ← item.members
    ClassItem.unionMembers rest (Ranges.union acc rs)
end

def classExpr (rs : Ranges) : Translate Expr := do
  pure (if (← get).unicode then Expr.charsOf rs else Expr.bytesOf rs)

/-- A character outside brackets: with case folded, a class of its case variants. -/
def literalExpr (lit : Literal) : Translate Expr := do
  let f ← get
  let n := lit.char.toNat
  if !f.unicode && lit.hexByte && n ≥ 0x80 then refuseAt .invalidUtf8 lit.span
  if f.caseInsensitive then
    if f.unicode then
      let folded := foldScalars [(n, n)]
      if folded.length > 1 || single? folded != some n then return Expr.charsOf folded
    else if ('a'.toNat ≤ n && n ≤ 'z'.toNat) || ('A'.toNat ≤ n && n ≤ 'Z'.toNat) then
      return Expr.bytesOf (foldBytes [(n, n)])
  pure (Expr.literalOf (Expr.utf8 n))

def dotExpr (span : Span) : Translate Expr := do
  let f ← get
  if !f.unicode then refuseAt .invalidUtf8 span
  let rs := if f.dotAll then scalarValues
    else if f.crlf then negate true [(0x0A, 0x0A), (0x0D, 0x0D)]
    else negate true [(0x0A, 0x0A)]
  pure (Expr.charsOf rs)

/-- An assertion in the current mode; `\B` would split characters with Unicode matching off. -/
def assertionExpr (span : Span) (kind : Assertion) : Translate Expr := do
  let f ← get
  let look : Look ← match kind with
    | .startLine => pure (if f.multiLine then .lineStart f.crlf else .textStart)
    | .endLine => pure (if f.multiLine then .lineEnd f.crlf else .textEnd)
    | .startText => pure .textStart
    | .endText => pure .textEnd
    | .wordBoundary => pure (.wordBoundary f.unicode false)
    | .notWordBoundary =>
      if f.unicode then pure (.wordBoundary true true) else refuseAt .invalidUtf8 span
    | .wordStart => pure (.wordStart f.unicode false)
    | .wordEnd => pure (.wordEnd f.unicode false)
    | .wordStartHalf => pure (.wordStart f.unicode true)
    | .wordEndHalf => pure (.wordEnd f.unicode true)
  pure (.look look)

def Atom.toExpr (span : Span) : Atom → Translate Expr
  | .literal lit => literalExpr lit
  | .dot => dotExpr span
  | .assertion kind => assertionExpr span kind
  | .perl kind negated => do classExpr (← perlClass span kind negated)
  | .property query negated => do classExpr (← propertyClass span query negated)

mutual
def Node.toExpr : Node → Translate Expr
  | .empty _ => pure .empty
  | .flags _ changes => do
    modify (·.apply changes)
    pure .empty
  | .atom span a => a.toExpr span
  | .bracketed span negated set => do
    let rs ← set.members
    classExpr (← foldAndNegate span negated rs)
  | .group _ capturing changes body => do
    let saved ← get
    modify (·.apply changes)
    let e ← body.toExpr
    set saved
    pure (if capturing then .capture e else e)
  | .repetition _ min max body => do
    pure (Expr.repetitionOf min max (← body.toExpr))
  | .concat _ items => do pure (Expr.concatOf (← Node.toExprs items))
  | .alternation _ items => do pure (Expr.alternationOf (← Node.toExprs items))

def Node.toExprs : List Node → Translate (List Expr)
  | [] => pure []
  | n :: rest => do
    let e ← n.toExpr
    pure (e :: (← Node.toExprs rest))
end

def Node.translate (n : Node) : Except SyntaxError Expr := (n.toExpr.run {}).map (·.1)

end OpenApiGen.Pattern
