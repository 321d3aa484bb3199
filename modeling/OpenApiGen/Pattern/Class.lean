import OpenApiGen.Unicode.Table
import OpenApiGen.Unicode.CaseFold
/-!
Classes of characters: sets of Unicode scalar values, or of bytes when Unicode matching is off.
-/

namespace OpenApiGen.Pattern

open Unicode

def scalarValues : Ranges := [(0, 0xD7FF), (0xE000, maxCodePoint)]

def allBytes : Ranges := [(0, 0xFF)]

def domain (unicode : Bool) : Ranges := if unicode then scalarValues else allBytes

/-- A class of the given ranges, made canonical and cut to its domain. -/
def classOf (unicode : Bool) (rs : Ranges) : Ranges := Ranges.inter (Ranges.normalize rs) (domain unicode)

def negate (unicode : Bool) (rs : Ranges) : Ranges := Ranges.diff (domain unicode) rs

def symmetricDifference (xs ys : Ranges) : Ranges :=
  Ranges.diff (Ranges.union xs ys) (Ranges.inter xs ys)

/-- The first position in `[lo, hi)` whose range ends at or after `n`, searching with fuel. -/
def lowerBound (rs : Array (Nat × Nat)) (n : Nat) : Nat → Nat → Nat → Nat
  | 0, lo, _ => lo
  | fuel + 1, lo, hi =>
    if lo < hi then
      let mid := lo + (hi - lo) / 2
      match rs[mid]? with
      | some (_, last) => if last < n then lowerBound rs n fuel (mid + 1) hi else lowerBound rs n fuel lo mid
      | none => lo
    else lo

/-- Whether a code point is in a class given as an array of ranges. -/
def memberOf (rs : Array (Nat × Nat)) (n : Nat) : Bool :=
  match rs[lowerBound rs n (Nat.log2 rs.size + 1) 0 rs.size]? with
  | some (first, last) => first ≤ n && n ≤ last
  | none => false

/-- A class of scalar values closed under simple case folding: every code point that folds like
a member joins it. -/
def foldScalars (rs : Ranges) : Ranges :=
  let members := rs.toArray
  let joined := caseFoldClasses.filter fun cls => cls.any (memberOf members)
  Ranges.union rs (joined.flatten.map fun c => (c, c))

/-- The other case of an ASCII letter range's part that lies in `lo..hi` of one case. -/
def shiftedPart (r : Nat × Nat) (lo hi : Nat) (up : Bool) : Ranges :=
  let a := max r.1 lo
  let b := min r.2 hi
  if a ≤ b then [if up then (a + 32, b + 32) else (a - 32, b - 32)] else []

def foldBytes (rs : Ranges) : Ranges :=
  Ranges.union rs (rs.flatMap fun r => shiftedPart r 0x61 0x7A false ++ shiftedPart r 0x41 0x5A true)

def caseFold (unicode : Bool) (rs : Ranges) : Ranges := if unicode then foldScalars rs else foldBytes rs

def isAscii (rs : Ranges) : Bool := rs.all fun r => r.2 ≤ 0x7F

def single? : Ranges → Option Nat
  | [(a, b)] => if a == b then some a else none
  | _ => none

end OpenApiGen.Pattern
