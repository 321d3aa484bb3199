import OpenApiGen.Pattern.Class
/-!
The meaning of a pattern once its flags, escapes and classes are resolved: bytes to match in
sequence, classes, assertions, repetitions, capturing groups, sequences and alternatives.
-/

namespace OpenApiGen.Pattern

open Unicode

/-- The assertions an expression can make about where it stands. -/
inductive Look where
  | textStart
  | textEnd
  | lineStart (crlf : Bool)
  | lineEnd (crlf : Bool)
  | wordBoundary (unicode negated : Bool)
  | wordStart (unicode half : Bool)
  | wordEnd (unicode half : Bool)
  deriving BEq, Inhabited

/-- A resolved pattern. Literals are the UTF-8 bytes to match; a class matches one scalar value
(`chars`) or one byte (`bytes`). -/
inductive Expr where
  | empty
  | literal (bytes : List Nat)
  | chars (ranges : Ranges)
  | bytes (ranges : Ranges)
  | look (look : Look)
  | repetition (min : Nat) (max : Option Nat) (body : Expr)
  | capture (body : Expr)
  | concat (items : List Expr)
  | alternation (items : List Expr)
  deriving BEq, Inhabited

namespace Expr

def fail : Expr := .bytes []

def utf8 (c : Nat) : List Nat :=
  if c < 0x80 then [c]
  else if c < 0x800 then [0xC0 + c / 64, 0x80 + c % 64]
  else if c < 0x10000 then [0xE0 + c / 4096, 0x80 + c / 64 % 64, 0x80 + c % 64]
  else [0xF0 + c / 262144, 0x80 + c / 4096 % 64, 0x80 + c / 64 % 64, 0x80 + c % 64]

def utf8Length (c : Nat) : Nat :=
  if c < 0x80 then 1 else if c < 0x800 then 2 else if c < 0x10000 then 3 else 4

/-- The scalar value that some bytes encode in UTF-8, if they encode exactly one. -/
def singleScalar? (bs : List Nat) : Option Nat :=
  match bs with
  | [a] => if a < 0x80 then some a else none
  | [a, b] => if 0xC0 ≤ a && a < 0xE0 then some ((a - 0xC0) * 64 + (b - 0x80)) else none
  | [a, b, c] => if 0xE0 ≤ a && a < 0xF0 then
      some ((a - 0xE0) * 4096 + (b - 0x80) * 64 + (c - 0x80)) else none
  | [a, b, c, d] => if 0xF0 ≤ a then
      some ((a - 0xF0) * 262144 + (b - 0x80) * 4096 + (c - 0x80) * 64 + (d - 0x80)) else none
  | _ => none

def literalOf (bs : List Nat) : Expr := if bs.isEmpty then .empty else .literal bs

/-- A class of scalar values: the empty class matches nothing, a single one is a literal. -/
def charsOf (rs : Ranges) : Expr :=
  if rs.isEmpty then fail
  else match single? rs with
    | some c => .literal (utf8 c)
    | none => .chars rs

/-- A class of bytes: the empty class matches nothing, a single one is a literal. -/
def bytesOf (rs : Ranges) : Expr :=
  if rs.isEmpty then fail
  else match single? rs with
    | some b => .literal [b]
    | none => .bytes rs

mutual
/-- The fewest bytes a match takes; nothing if the expression cannot match. -/
def minLen : Expr → Option Nat
  | .empty | .look _ => some 0
  | .literal bs => some bs.length
  | .chars rs => rs.head?.map fun r => utf8Length r.1
  | .bytes rs => if rs.isEmpty then none else some 1
  | .repetition min _ body => (minLen body).map (· * min)
  | .capture body => minLen body
  | .concat items => minLenSum items
  | .alternation items => minLenLeast items

def minLenSum : List Expr → Option Nat
  | [] => some 0
  | e :: rest => match minLen e, minLenSum rest with
    | some a, some b => some (a + b)
    | _, _ => none

def minLenLeast : List Expr → Option Nat
  | [] => none
  | [e] => minLen e
  | e :: rest => match minLen e, minLenLeast rest with
    | some a, some b => some (min a b)
    | _, _ => none
end

mutual
/-- The most bytes a match takes; nothing if there is no bound. -/
def maxLen : Expr → Option Nat
  | .empty | .look _ => some 0
  | .literal bs => some bs.length
  | .chars rs => rs.getLast?.map fun r => utf8Length r.2
  | .bytes rs => if rs.isEmpty then none else some 1
  | .repetition _ max body => match max, maxLen body with
    | some m, some x => some (x * m)
    | _, _ => none
  | .capture body => maxLen body
  | .concat items => maxLenSum items
  | .alternation items => maxLenMost items

def maxLenSum : List Expr → Option Nat
  | [] => some 0
  | e :: rest => match maxLen e, maxLenSum rest with
    | some a, some b => some (a + b)
    | _, _ => none

def maxLenMost : List Expr → Option Nat
  | [] => some 0
  | e :: rest => match maxLen e, maxLenMost rest with
    | some a, some b => some (max a b)
    | _, _ => none
end

def isZeroWidth (e : Expr) : Bool := e.maxLen == some 0

mutual
def startsWith (p : Look → Bool) : Expr → Bool
  | .look l => p l
  | .repetition min _ body => min > 0 && startsWith p body
  | .capture body => startsWith p body
  | .concat items => startsWithSeq p items
  | .alternation items => !items.isEmpty && startsWithAll p items
  | _ => false

/-- Whether a sequence starts with such an assertion, looking past pieces of zero width. -/
def startsWithSeq (p : Look → Bool) : List Expr → Bool
  | [] => false
  | e :: rest => startsWith p e || (isZeroWidth e && startsWithSeq p rest)

def startsWithAll (p : Look → Bool) : List Expr → Bool
  | [] => true
  | e :: rest => startsWith p e && startsWithAll p rest
end

mutual
def endsWith (p : Look → Bool) : Expr → Bool
  | .look l => p l
  | .repetition min _ body => min > 0 && endsWith p body
  | .capture body => endsWith p body
  | .concat items => endsWithSeq p items
  | .alternation items => !items.isEmpty && endsWithAll p items
  | _ => false

/-- Whether a sequence ends with such an assertion, looking back past pieces of zero width. -/
def endsWithSeq (p : Look → Bool) : List Expr → Bool
  | [] => false
  | e :: rest => endsWithSeq p rest || (rest.all isZeroWidth && endsWith p e)

def endsWithAll (p : Look → Bool) : List Expr → Bool
  | [] => true
  | e :: rest => endsWith p e && endsWithAll p rest
end

mutual
def hasLookOrCapture : Expr → Bool
  | .look _ | .capture _ => true
  | .repetition _ _ body => hasLookOrCapture body
  | .concat items | .alternation items => anyLookOrCapture items
  | _ => false

/-- Whether one of a list holds an assertion or a capturing group. -/
def anyLookOrCapture : List Expr → Bool
  | [] => false
  | e :: rest => hasLookOrCapture e || anyLookOrCapture rest
end

def isLiteral : Expr → Bool
  | .literal _ => true
  | _ => false

/-- Whether an expression is a class, and its members as scalar values if it is one. -/
def scalarsOf? : Expr → Option Ranges
  | .chars rs => some rs
  | .bytes rs => if isAscii rs then some rs else none
  | _ => none

def mergeItems : List Expr → List Nat → List Expr
  | [], pending => if pending.isEmpty then [] else [.literal pending]
  | .literal bs :: rest, pending => mergeItems rest (pending ++ bs)
  | .empty :: rest, pending => mergeItems rest pending
  | e :: rest, pending =>
    (if pending.isEmpty then [] else [.literal pending]) ++ e :: mergeItems rest []

/-- The pieces of a sequence's items, with the items of nested sequences taken apart. -/
def flattenConcat : List Expr → List Expr
  | [] => []
  | .concat inner :: rest => inner ++ flattenConcat rest
  | e :: rest => e :: flattenConcat rest

/-- A sequence: no piece is the empty expression, one piece is itself. -/
def concatOf (items : List Expr) : Expr :=
  match mergeItems (flattenConcat items) [] with
  | [] => .empty
  | [e] => e
  | es => .concat es

def flattenAlternation : List Expr → List Expr
  | [] => []
  | .alternation inner :: rest => inner ++ flattenAlternation rest
  | e :: rest => e :: flattenAlternation rest

def commonPrefix : List Expr → List Expr → List Expr
  | a :: as, b :: bs => if a == b then a :: commonPrefix as bs else []
  | _, _ => []

def concatItems? : List Expr → Option (List (List Expr))
  | [] => some []
  | .concat items :: rest => (concatItems? rest).map (items :: ·)
  | _ => none

mutual
def weight : Expr → Nat
  | .repetition _ _ body | .capture body => weight body + 1
  | .concat items | .alternation items => weightAll items + 1
  | _ => 1

def weightAll : List Expr → Nat
  | [] => 0
  | e :: rest => weight e + weightAll rest
end

/-- Alternatives, lifting shared prefixes at most `fuel` times deep. Each lift leaves
alternatives of smaller total weight, so the weight of the alternatives is enough fuel. -/
def alternationWith : Nat → List Expr → Expr
  | 0, items => .alternation items
  | fuel + 1, items =>
    let items := flattenAlternation items
    match items with
    | [] => fail
    | [e] => e
    | _ =>
      match items.mapM (fun e => match e with
          | .literal bs => singleScalar? bs
          | _ => none) with
      | some cs => charsOf (Ranges.normalize (cs.map fun c => (c, c)))
      | none =>
        match items.mapM scalarsOf? with
        | some sets => charsOf (sets.foldl Ranges.union [])
        | none =>
          match concatItems? items with
          | some (first :: rest) =>
            let shared := rest.foldl commonPrefix first
            if shared.isEmpty then .alternation items
            else
              let suffixes := (first :: rest).map fun xs => concatOf (xs.drop shared.length)
              concatOf (shared ++ [alternationWith fuel suffixes])
          | _ => .alternation items

/-- Alternatives: nested ones are taken apart; no alternative matches nothing; single characters
or classes become one class; a prefix that every alternative shares is matched once in front. -/
def alternationOf (items : List Expr) : Expr := alternationWith (weightAll items + 1) items

/-- A repetition: of what matches only the empty text at most once; none at all is the empty
expression and exactly once is the body. -/
def repetitionOf (min : Nat) (max : Option Nat) (body : Expr) : Expr :=
  let (min, max) := if body.isZeroWidth then (Nat.min min 1, some ((max.getD 1).min 1)) else (min, max)
  if min == 0 && max == some 0 then .empty
  else if min == 1 && max == some 1 then body
  else .repetition min max body

end Expr

end OpenApiGen.Pattern
