import OpenApiGen.Json.Value
import OpenApiGen.Decode.Error

/-!
Typed decoding of JSON values.
-/

namespace OpenApiGen

abbrev Decoded (α : Type) := Except DecodeError α

namespace Decoded

def unexpected : Json → Unexpected
  | .null => .null
  | .bool b => .bool b
  | .number (.unsigned n) => .unsigned n
  | .number (.signed n) => .signed n
  | .number (.double f) => .double f
  | .string s => .string s
  | .array _ => .sequence
  | .object _ => .map

def fail (p : Problem) : Decoded α := .error { problem := p }

/-- A reader's failures are placed at its value unless a deeper place is known. -/
def level (r : Decoded α) : Decoded α := r.mapError DecodeError.markHere

def under (s : Segment) (r : Decoded α) : Decoded α := r.mapError (DecodeError.within s)

def string (v : Json) : Decoded String :=
  level (match v with
    | .string s => .ok s
    | _ => fail (.invalidType (unexpected v) "a string"))

def optional (read : Json → Decoded α) (v : Json) : Decoded (Option α) :=
  match v with
  | .null => .ok none
  | _ => Option.some <$> read v

def sequence (read : Json → Decoded α) (v : Json) : Decoded (List α) :=
  level (match v with
    | .array items =>
      (items.zipIdx.mapM (fun (x, i) => under (.index i) (read x)))
    | _ => fail (.invalidType (unexpected v) "a sequence"))

/-- An object read value by value; a repeated key keeps its first place and its last value. -/
def mapping (read : Json → Decoded α) (v : Json) : Decoded (List (String × α)) :=
  level (match v with
    | .object fs =>
      fs.foldlM (fun acc (k, x) => do
        let a ← under (.key k) (read x)
        pure (keepFirstPlace acc k a)) []
    | _ => fail (.invalidType (unexpected v) "a map"))
where
  keepFirstPlace (entries : List (String × α)) (key : String) (a : α) : List (String × α) :=
    if entries.any (fun p => p.1 == key) then
      entries.map (fun p => if p.1 == key then (key, a) else p)
    else entries ++ [(key, a)]

/-- How a record is read: its name, its field names in declaration order (the first `required`
of them have no default), how a field's value is stored into a draft, and how the draft is
finished once every required field is known to be there. -/
structure RecordShape (σ α : Type) where
  name : String
  fields : List String
  required : Nat
  empty : σ
  store : σ → Nat → Json → Decoded σ
  finish : σ → α

def firstMissing (fields : List String) (required : Nat) (seen : List Nat) : Option String :=
  ((fields.take required).zipIdx.find? (fun (_, i) => !seen.contains i)).map Prod.fst

def record (shape : RecordShape σ α) (v : Json) : Decoded α :=
  level (match v with
    | .object fs => do
      let step (acc : σ × List Nat) (entry : String × Json) : Decoded (σ × List Nat) :=
        let (k, x) := entry
        match shape.fields.idxOf? k with
        | none => under (.key k) (fail (.unknownField k shape.fields))
        | some i =>
          if acc.2.contains i then fail (.duplicateField k)
          else do
            let st ← under (.key k) (shape.store acc.1 i x)
            pure (st, i :: acc.2)
      let (st, seen) ← fs.foldlM step (shape.empty, [])
      match firstMissing shape.fields shape.required seen with
      | some f => fail (.missingField f)
      | none => pure (shape.finish st)
    | .array items => do
      let given := items.take shape.fields.length
      let st ← given.zipIdx.foldlM (fun st (x, i) => under (.index i) (shape.store st i x))
        shape.empty
      if items.length < shape.required then
        fail (.invalidLength items.length
          ("struct " ++ shape.name ++ " with " ++ toString shape.fields.length ++ " elements"))
      else if items.length > shape.fields.length then
        fail (.invalidLength items.length "fewer elements in array")
      else pure (shape.finish st)
    | _ => fail (.invalidType (unexpected v) ("struct " ++ shape.name)))

end Decoded

mutual
/-- Nesting depth of a value, a bound for readers that descend one level a call. -/
def Json.depth : Json → Nat
  | .array items => 1 + Json.depthItems items
  | .object fs => 1 + Json.depthFields fs
  | _ => 0

def Json.depthItems : List Json → Nat
  | [] => 0
  | x :: rest => max x.depth (Json.depthItems rest)

def Json.depthFields : List (String × Json) → Nat
  | [] => 0
  | (_, x) :: rest => max x.depth (Json.depthFields rest)
end

end OpenApiGen
