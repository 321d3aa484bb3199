/-!
JSON values with objects kept in insertion order.
-/

namespace OpenApiGen

/-- A JSON number in the three kinds a reader tells apart: a non-negative integer below `2^64`,
a negative integer not below `-2^63`, and a double. -/
inductive JsonNumber where
  | unsigned (n : Nat)
  | signed (n : Int)
  | double (f : Float)
  deriving Inhabited

/-- A JSON value; objects are ordered lists of fields. -/
inductive Json where
  | null
  | bool (b : Bool)
  | number (n : JsonNumber)
  | string (s : String)
  | array (items : List Json)
  | object (fields : List (String × Json))
  deriving Inhabited

abbrev Fields := List (String × Json)

namespace Fields

/-- The value stored under `key`, if any (the first entry, where a raw object repeats a key). -/
def get? (fs : Fields) (key : String) : Option Json :=
  (fs.find? (fun p => p.1 == key)).map Prod.snd

def contains (fs : Fields) (key : String) : Bool :=
  fs.any (fun p => p.1 == key)

/-- Store `v` under `key`: a present key keeps its position, a new one goes last. -/
def insert (fs : Fields) (key : String) (v : Json) : Fields :=
  if fs.contains key then fs.map (fun p => if p.1 == key then (key, v) else p)
  else fs ++ [(key, v)]

def extend (fs more : Fields) : Fields :=
  more.foldl (fun acc p => acc.insert p.1 p.2) fs

def erase (fs : Fields) (key : String) : Fields :=
  fs.filter (fun p => p.1 != key)

/-- Drop `key`; the last entry takes its place (no change when `key` is absent or last). -/
def swapRemove (fs : Fields) (key : String) : Option Json × Fields :=
  match fs.findIdx? (fun p => p.1 == key) with
  | none => (none, fs)
  | some i =>
    let removed := fs[i]?.map Prod.snd
    if i + 1 = fs.length then (removed, fs.take i)
    else match fs.getLast? with
      | none => (none, fs)
      | some last => (removed, (fs.take fs.length.pred).set i last)

def keys (fs : Fields) : List String := fs.map Prod.fst

end Fields

namespace Json

def get? : Json → String → Option Json
  | .object fs, key => Fields.get? fs key
  | _, _ => none

def str? : Json → Option String
  | .string s => some s
  | _ => none

/-- An object built from a list of fields that the caller keeps distinct. -/
def obj (fs : List (String × Json)) : Json := .object fs

def text (s : String) : Json := .string s

mutual
/-- Collapse repeated keys of every object, as an ordered map would: first position, last value. -/
def normalize : Json → Json
  | .array items => .array (normalizeList items)
  | .object fs => .object (normalizeFields [] fs)
  | v => v

def normalizeList : List Json → List Json
  | [] => []
  | v :: rest => normalize v :: normalizeList rest

def normalizeFields (acc : Fields) : List (String × Json) → Fields
  | [] => acc
  | (k, v) :: rest => normalizeFields (Fields.insert acc k (normalize v)) rest
end

end Json

end OpenApiGen
