import OpenApiGen.Pattern.Expr
/-!
The UTF-8 forms of a range of scalar values, as sequences of byte ranges.
-/

namespace OpenApiGen.Pattern

def encodingEnds : List Nat := [0x7F, 0x7FF, 0xFFFF]

/-- The block sizes of continuation bytes: 64, 4096 and 262144 code points. -/
def blockSizes : List Nat := [64, 4096, 262144]

/-- The split of a range at an encoding end that lies inside it, if any. -/
def encodingSplit? (lo hi : Nat) : Option Nat :=
  encodingEnds.find? fun m => lo ≤ m && m < hi

/-- The split of a range whose ends do not share the leading bytes of a block size: after the
end of the first block if the range starts inside a block, else before the last block if it ends
inside one. -/
def blockSplit? (lo hi : Nat) : Option Nat :=
  (blockSizes.find? fun b => lo / b != hi / b && (lo % b != 0 || hi % b != b - 1)).map fun b =>
    if lo % b != 0 then lo - lo % b + b - 1 else hi - hi % b - 1

/-- The UTF-8 sequences of the scalar values from `lo` to `hi`, splitting at most `fuel` deep. -/
def utf8Sequences : Nat → Nat → Nat → List (List (Nat × Nat))
  | 0, _, _ => []
  | fuel + 1, lo, hi =>
    if hi < lo then []
    else if lo < 0xE000 && hi > 0xD7FF then
      utf8Sequences fuel lo 0xD7FF ++ utf8Sequences fuel 0xE000 hi
    else match encodingSplit? lo hi with
      | some m => utf8Sequences fuel lo m ++ utf8Sequences fuel (m + 1) hi
      | none =>
        if hi ≤ 0x7F then [[(lo, hi)]]
        else match blockSplit? lo hi with
          | some m => utf8Sequences fuel lo m ++ utf8Sequences fuel (m + 1) hi
          | none => [List.zip (Expr.utf8 lo) (Expr.utf8 hi)]

def classSequences (rs : Unicode.Ranges) : List (List (Nat × Nat)) :=
  rs.flatMap fun r => utf8Sequences 16 r.1 r.2

end OpenApiGen.Pattern
