import OpenApiGen.Jq.Arith
/-!
Looking into containers and changing them in place.
-/

namespace OpenApiGen.Jq

namespace Value

def asIndex : Value → Except JqError Int
  | .int i => .ok i
  | v => .error (JqError.typeMismatch v "integer")

/-- The position an index reaches in a sequence of the given length, negative indices counting
from the end. -/
def position (i : Int) (len : Nat) : Option Nat :=
  if i ≥ 0 then (if i.toNat < len then some i.toNat else none)
  else if i.natAbs ≤ len then some (len - i.natAbs) else none

/-- A slice bound as a position: negative counts from the end, clamped to `0` and the length. -/
def bound (i : Option Int) (len default : Nat) : Nat :=
  match i with
  | none => default
  | some i => min (if i ≥ 0 then i.toNat else len - min len i.natAbs) len

def index (v k : Value) : Except JqError Value :=
  match v, k with
  | .arr a, .int i => .ok ((position i a.length).bind (a[·]?) |>.getD .null)
  | .obj o, .str key => .ok ((field? o key).getD .null)
  | .arr _, _ | .obj _, _ => .error (JqError.badIndex v k)
  | _, _ => .error (JqError.typeMismatch v "iterable (array or object)")

def children : Value → Except JqError (List Value)
  | .arr a => .ok a
  | .obj o => .ok (o.map (·.2))
  | v => .error (JqError.typeMismatch v "iterable (array or object)")

/-- The bounds of a slice of a sequence of the given length: how many to skip and how many to
take. -/
def sliceBounds (lo hi : Option Value) (len : Nat) : Except JqError (Nat × Nat) := do
  let lo ← match lo with
    | none => pure none
    | some v => some <$> v.asIndex
  let hi ← match hi with
    | none => pure none
    | some v => some <$> v.asIndex
  let from_ := bound lo len 0
  let upto := bound hi len len
  return (from_, upto - from_)

def slice (v : Value) (lo hi : Option Value) : Except JqError Value :=
  match v with
  | .arr a => do
    let (skip, take) ← sliceBounds lo hi a.length
    return .arr ((a.drop skip).take take)
  | .str s => do
    let cs := s.toList
    let (skip, take) ← sliceBounds lo hi cs.length
    return .str (String.ofList ((cs.drop skip).take take))
  | v => .error (JqError.typeMismatch v "array")

/-- Leaves a value unchanged where an optional step cannot enter it, else fails. -/
def failUnless (optional : Bool) (v : Value) (e : JqError) : Except Exn Value :=
  if optional then .ok v else .error (.error e)

/-- Updates the child at an index with the first output of `f`; no output removes it (the last
field of an object moving into its place). -/
def updateIndex (v k : Value) (optional : Bool) (f : Value → Option (Except Exn Value)) :
    Except Exn Value :=
  match v with
  | .obj o =>
    match k with
    | .str key =>
      match field? o key with
      | some old =>
        match f old with
        | none => .ok (.obj (swapRemoveField o key))
        | some (.ok y) => .ok (.obj (setField o key y))
        | some (.error e) => .error e
      | none =>
        match f .null with
        | none => .ok v
        | some (.ok y) => .ok (.obj (o ++ [(key, y)]))
        | some (.error e) => .error e
    | _ => failUnless optional v (JqError.badIndex v k)
  | .arr a =>
    let at_ : Except JqError Nat := do
      let i ← k.asIndex
      match position i a.length with
      | some p => pure p
      | none => throw (JqError.text ("index " ++ toString i ++ " out of bounds"))
    match at_ with
    | .error e => failUnless optional v e
    | .ok p =>
      match f (a.getD p .null) with
      | none => .ok (.arr (a.eraseIdx p))
      | some (.ok y) => .ok (.arr (a.set p y))
      | some (.error e) => .error e
  | _ => failUnless optional v (JqError.typeMismatch v "iterable (array or object)")

/-- Keeps the children for which `f` has an output, replaced by it; stops at the first error. -/
def updateEach {α : Type} (f : α → Option (Except Exn α)) : List α → Except Exn (List α)
  | [] => .ok []
  | x :: rest =>
    match f x with
    | none => updateEach f rest
    | some (.error e) => .error e
    | some (.ok y) => (y :: ·) <$> updateEach f rest

/-- Updates every child with the first output of `f`; children without output are removed. -/
def updateChildren (v : Value) (optional : Bool) (f : Value → Option (Except Exn Value)) :
    Except Exn Value :=
  match v with
  | .arr a => .arr <$> updateEach f a
  | .obj o =>
    .obj <$> updateEach (fun (kv : String × Value) => (f kv.2).map (·.map (kv.1, ·))) o
  | _ => failUnless optional v (JqError.typeMismatch v "iterable (array or object)")

/-- Updates a slice of an array with the first output of `f`, which must be an array; no output
removes the slice. -/
def updateSlice (v : Value) (lo hi : Option Value) (optional : Bool)
    (f : Value → Option (Except Exn Value)) : Except Exn Value :=
  match v with
  | .arr a =>
    match sliceBounds lo hi a.length with
    | .error e => failUnless optional v e
    | .ok (skip, take) =>
      let keep (ys : List Value) : Value := .arr (a.take skip ++ ys ++ a.drop (skip + take))
      match f (.arr ((a.drop skip).take take)) with
      | none => .ok (keep [])
      | some (.error e) => .error e
      | some (.ok (.arr ys)) => .ok (keep ys)
      | some (.ok y) => .error (.error (JqError.typeMismatch y "array"))
  | _ => failUnless optional v (JqError.typeMismatch v "array")

/-- The length of a value: characters of a string, children of a container, size of a number,
`0` for `null`. -/
def length : Value → Except Exn Value
  | .null => .ok (.int 0)
  | .bool b => .error (.error (JqError.text ((Value.bool b).render ++ " has no length")))
  | .int i => wordResult i.natAbs "negate"
  | .float x => .ok (.float x.abs)
  | .num t =>
    match ofDecimal t with
    | .float x => .ok (.float x.abs)
    | _ => .ok (.int 0)
  | .str s => .ok (.int s.length)
  | .arr a => .ok (.int a.length)
  | .obj o => .ok (.int o.length)

/-- The keys of an object in insertion order, or the indices of an array. -/
def keysUnsorted : Value → Except JqError (List Value)
  | .obj o => .ok (o.map fun kv => .str kv.1)
  | .arr a => .ok ((List.range a.length).map fun i => .int (Int.ofNat i))
  | v => .error (JqError.typeMismatch v "iterable (array or object)")

def has (v k : Value) : Except JqError Bool :=
  match v, k with
  | .arr a, .int i => if i ≥ 0 then .ok (i.toNat < a.length) else .error (JqError.badIndex v k)
  | .obj o, .str key => .ok (o.any (·.1 == key))
  | _, _ => .error (JqError.badIndex v k)

def windowsAt {α : Type} [BEq α] (hay needle : List α) : List Nat :=
  if needle.isEmpty then []
  else (List.range hay.length).filter fun i => (hay.drop i).take needle.length == needle

mutual
/-- Whether `a` contains `b`: substrings, every element of an array within some element, every
field of an object within the field of the same key, and equality otherwise. -/
def contains : Value → Value → Bool
  | .str x, .str y => y.isEmpty || !(windowsAt x.toList y.toList).isEmpty
  | .arr xs, .arr ys => containsAll xs ys
  | .obj xs, .obj ys => containsFields xs ys
  | a, b => a == b

def containsAll (xs : List Value) : List Value → Bool
  | [] => true
  | y :: rest => containsSome xs y && containsAll xs rest

def containsSome : List Value → Value → Bool
  | [], _ => false
  | x :: rest, y => contains x y || containsSome rest y

/-- Every field of `ys` is contained in the field of `xs` with the same key. -/
def containsFields (xs : List (String × Value)) : List (String × Value) → Bool
  | [] => true
  | (k, y) :: rest =>
    (match xs.find? (·.1 == k) with
      | some (_, x) => contains x y
      | none => false) && containsFields xs rest
end

/-- Where a value occurs: substrings of a string (by character), sub-arrays of an array, or
elements of an array equal to a value. -/
def indices (v k : Value) : Except JqError (List Nat) :=
  match v, k with
  | .str x, .str y => .ok (windowsAt x.toList y.toList)
  | .arr xs, .arr ys => .ok (windowsAt xs ys)
  | .arr xs, y => .ok ((List.range xs.length).filter fun i => xs.getD i .null == y)
  | _, _ => .error (JqError.badIndex v k)

end Value

end OpenApiGen.Jq
