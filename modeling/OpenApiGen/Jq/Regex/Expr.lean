/-!
Regular expressions as trees, for the regular-expression built-ins of jq.
-/

namespace OpenApiGen.Jq.Regex

inductive Look where
  | start
  | finish
  | startLine
  | endLine
  | startLineCrlf
  | endLineCrlf
  | word
  | notWord
  | wordStart
  | wordEnd
  | wordStartHalf
  | wordEndHalf
  deriving Inhabited, BEq

inductive Expr where
  | empty
  | char (c : Char)
  | cls (ranges : List (Nat × Nat))
  | look (l : Look)
  | rep (min : Nat) (max : Option Nat) (greedy : Bool) (sub : Expr)
  | capture (index : Nat) (name : Option String) (sub : Expr)
  | concat (subs : List Expr)
  | alt (subs : List Expr)
  deriving Inhabited

namespace Expr

def seq : List Expr → Expr
  | [] => .empty
  | [e] => e
  | es => .concat es

def choice : List Expr → Expr
  | [e] => e
  | es => .alt es

/-- How deeply the expression nests: repetitions, groups, sequences and choices each add a
level. -/
def depth : Expr → Nat
  | .rep _ _ _ sub => depth sub + 1
  | .capture _ _ sub => depth sub + 1
  | .concat subs => subs.attach.foldl (fun m ⟨e, _⟩ => max m (depth e)) 0 + 1
  | .alt subs => subs.attach.foldl (fun m ⟨e, _⟩ => max m (depth e)) 0 + 1
  | _ => 0

end Expr

def maxCode : Nat := 0x10FFFF

def normalize (rs : List (Nat × Nat)) : List (Nat × Nat) :=
  let sorted := rs.mergeSort fun a b => a.1 ≤ b.1
  (sorted.foldl (fun acc r =>
    match acc with
    | (lo, hi) :: rest => if r.1 ≤ hi + 1 then (lo, max hi r.2) :: rest else r :: acc
    | [] => [r]) []).reverse

def negate (rs : List (Nat × Nat)) : List (Nat × Nat) :=
  let (acc, next) := (normalize rs).foldl (fun (acc, next) (lo, hi) =>
    ((if next < lo then (next, lo - 1) :: acc else acc), hi + 1)) ([], 0)
  (if next ≤ maxCode then (next, maxCode) :: acc else acc).reverse

def shiftOverlap (r : Nat × Nat) (lo hi : Nat) (up : Bool) : List (Nat × Nat) :=
  let a := max r.1 lo
  let b := min r.2 hi
  if a ≤ b then [if up then (a + 32, b + 32) else (a - 32, b - 32)] else []

def caseFold (rs : List (Nat × Nat)) : List (Nat × Nat) :=
  normalize (rs ++ rs.flatMap fun r =>
    shiftOverlap r 0x41 0x5A true ++ shiftOverlap r 0x61 0x7A false)

/-- The ranges of a named ASCII class, if the name is one. -/
def posixClass : String → Option (List (Nat × Nat))
  | "alnum" => some [(0x30, 0x39), (0x41, 0x5A), (0x61, 0x7A)]
  | "alpha" => some [(0x41, 0x5A), (0x61, 0x7A)]
  | "ascii" => some [(0x00, 0x7F)]
  | "blank" => some [(0x09, 0x09), (0x20, 0x20)]
  | "cntrl" => some [(0x00, 0x1F), (0x7F, 0x7F)]
  | "digit" => some [(0x30, 0x39)]
  | "graph" => some [(0x21, 0x7E)]
  | "lower" => some [(0x61, 0x7A)]
  | "print" => some [(0x20, 0x7E)]
  | "punct" => some [(0x21, 0x2F), (0x3A, 0x40), (0x5B, 0x60), (0x7B, 0x7E)]
  | "space" => some [(0x09, 0x0D), (0x20, 0x20)]
  | "upper" => some [(0x41, 0x5A)]
  | "word" => some [(0x30, 0x39), (0x41, 0x5A), (0x5F, 0x5F), (0x61, 0x7A)]
  | "xdigit" => some [(0x30, 0x39), (0x41, 0x46), (0x61, 0x66)]
  | _ => none

def isWordChar (c : Char) : Bool := c.isAlphanum || c == '_'

end OpenApiGen.Jq.Regex
