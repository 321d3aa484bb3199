/-!
The compact form of the Unicode tables.
-/

namespace OpenApiGen.Unicode

/-- A set of code points as disjoint inclusive ranges in increasing order. -/
abbrev Ranges := List (Nat × Nat)

def maxCodePoint : Nat := 0x10FFFF

def numbers (table : String) : Array Nat :=
  (table.foldl (fun (acc : Array Nat × Nat) c =>
    let n := c.toNat
    if 65 ≤ n && n ≤ 90 then (acc.1, acc.2 * 26 + (n - 65))
    else if 97 ≤ n && n ≤ 122 then (acc.1.push (acc.2 * 26 + (n - 97)), 0)
    else acc) (#[], 0)).1

/-- The ranges of a set written as pairs of gaps and lengths. -/
def rangesOfNumbers (ns : List Nat) (next : Nat) : Ranges :=
  match ns with
  | gap :: length :: rest =>
    (next + gap, next + gap + length) :: rangesOfNumbers rest (next + gap + length + 1)
  | _ => []

def rangesOf (table : String) : Ranges := rangesOfNumbers (numbers table).toList 0

/-- The runs of a property written as pairs of lengths and values: first point, last point and
value of each. -/
def runsOfNumbers (ns : List Nat) (next : Nat) : List (Nat × Nat × Nat) :=
  match ns with
  | length :: value :: rest =>
    (next, next + length - 1, value) :: runsOfNumbers rest (next + length)
  | _ => []

def runsOf (table : String) : List (Nat × Nat × Nat) := runsOfNumbers (numbers table).toList 0

def joinAdjacent : Ranges → Ranges
  | (a, b) :: (c, d) :: rest =>
    if b + 1 = c then joinAdjacent ((a, d) :: rest) else (a, b) :: joinAdjacent ((c, d) :: rest)
  | rs => rs
termination_by rs => rs.length

/-- The code points whose value in a list of runs satisfies a test. -/
def runsWhere (runs : List (Nat × Nat × Nat)) (test : Nat → Bool) : Ranges :=
  joinAdjacent ((runs.filter fun r => test r.2.2).map fun r => (r.1, r.2.1))

namespace Ranges

/-- Ranges sorted by their first point, with overlapping and adjacent ones joined. -/
def normalize (rs : Ranges) : Ranges :=
  let sorted := rs.mergeSort fun a b => a.1 ≤ b.1
  (sorted.foldl (fun (acc : Ranges) r =>
    match acc with
    | (a, b) :: rest => if r.1 ≤ b + 1 then (a, max b r.2) :: rest else r :: acc
    | [] => [r]) []).reverse

def union (xs ys : Ranges) : Ranges := normalize (xs ++ ys)

def diff : Ranges → Ranges → Ranges
  | [], _ => []
  | xs, [] => xs
  | (a, b) :: rs, (c, d) :: ss =>
    if d < a then diff ((a, b) :: rs) ss
    else if b < c then (a, b) :: diff rs ((c, d) :: ss)
    else
      let left := if a < c then [(a, c - 1)] else []
      if d < b then left ++ diff ((d + 1, b) :: rs) ss
      else left ++ diff rs ((c, d) :: ss)
termination_by xs ys => xs.length + ys.length

def inter : Ranges → Ranges → Ranges
  | [], _ => []
  | _, [] => []
  | (a, b) :: rs, (c, d) :: ss =>
    let lo := max a c
    let hi := min b d
    let here := if lo ≤ hi then [(lo, hi)] else []
    if b < d then here ++ inter rs ((c, d) :: ss) else here ++ inter ((a, b) :: rs) ss
termination_by xs ys => xs.length + ys.length

def contains (rs : Ranges) (n : Nat) : Bool := rs.any fun r => r.1 ≤ n && n ≤ r.2

end Ranges

end OpenApiGen.Unicode
