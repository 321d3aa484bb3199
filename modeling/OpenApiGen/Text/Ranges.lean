/-!
Sets of code points given as sorted tables of ranges.
-/

namespace OpenApiGen.Text

/-- A set of code points: disjoint inclusive ranges in increasing order. -/
structure CodeRanges where
  ranges : Array (Nat × Nat)

namespace CodeRanges

/-- The first position in `[lo, hi)` whose range ends at or after `n`, searching with fuel. -/
def lowerBound (rs : Array (Nat × Nat)) (n : Nat) : Nat → Nat → Nat → Nat
  | 0, lo, _ => lo
  | fuel + 1, lo, hi =>
    if lo < hi then
      let mid := lo + (hi - lo) / 2
      match rs[mid]? with
      | some (_, last) => if last < n then lowerBound rs n fuel (mid + 1) hi else lowerBound rs n fuel lo mid
      | none => lo
    else lo

def contains (s : CodeRanges) (n : Nat) : Bool :=
  match s.ranges[lowerBound s.ranges n (Nat.log2 s.ranges.size + 1) 0 s.ranges.size]? with
  | some (first, last) => first ≤ n && n ≤ last
  | none => false

end CodeRanges

end OpenApiGen.Text
