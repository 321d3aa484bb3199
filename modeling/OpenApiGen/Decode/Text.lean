import OpenApiGen.Json.Read

/-!
Typed decoding straight from JSON text.
-/

namespace OpenApiGen

namespace Scan

/-- A reader's failures are placed at its value unless a deeper place is known. -/
def level (act : Scan α) : Scan α := mapError DecodeError.markHere act

def invalidType (expected : String) : Scan α := fixing (do
  match ← peek with
  | some 110 => do eat; ident [117, 108, 108]; failBare (.invalidType .null expected)
  | some 116 => do eat; ident [114, 117, 101]; failBare (.invalidType (.bool true) expected)
  | some 102 => do eat; ident [97, 108, 115, 101]; failBare (.invalidType (.bool false) expected)
  | some 45 => do
    eat
    let n ← number false
    failBare (.invalidType (numberKind n) expected)
  | some 34 => do
    eat
    let s ← string
    failBare (.invalidType (.string s) expected)
  | some 91 => failBare (.invalidType .sequence expected)
  | some 123 => failBare (.invalidType .map expected)
  | some b =>
    if 48 ≤ b && b ≤ 57 then do
      let n ← number true
      failBare (.invalidType (numberKind n) expected)
    else failAhead .expectedValue
  | none => failAhead .expectedValue)
where
  numberKind : JsonNumber → Unexpected
    | .unsigned n => .unsigned n
    | .signed n => .signed n
    | .double f => .double f

def textString : Scan String := level (fixing (do
  match ← skipBlank with
  | none => failAhead .eofValue
  | some 34 => do eat; string
  | some _ => invalidType "a string"))

def optional (read : Scan α) : Scan (Option α) := level (do
  match ← skipBlank with
  | some 110 => do eat; ident [117, 108, 108]; pure none
  | _ => return some (← read))

/-- A sequence; `room` is the nesting allowance where it stands, `item` reads an item inside. -/
def sequenceOf (room : Nat) (item : Scan α) : Scan (List α) := level (fixing (do
  match ← skipBlank with
  | none => failAhead .eofValue
  | some 91 =>
    if room ≤ 1 then failAhead .recursionLimit
    else enter (withRemaining (fun fuel => items (fun _ => item) fuel 0 [])) endSeq
  | some _ => invalidType "a sequence"))

/-- An object of values read by `read`; a repeated key keeps its first place and last value. -/
def mappingOf (room : Nat) (read : Scan α) : Scan (List (String × α)) := level (fixing (do
  match ← skipBlank with
  | none => failAhead .eofValue
  | some 123 =>
    if room ≤ 1 then failAhead .recursionLimit
    else
      let step (acc : List (String × α)) (k : String) : Scan (List (String × α)) := do
        colon
        let v ← read
        pure (keepFirstPlace acc k v)
      enter (withRemaining (fun fuel => fields step fuel true [])) endMap
  | some _ => invalidType "a map"))
where
  keepFirstPlace (entries : List (String × α)) (key : String) (v : α) : List (String × α) :=
    if entries.any (fun p => p.1 == key) then
      entries.map (fun p => if p.1 == key then (key, v) else p)
    else entries ++ [(key, v)]

/-- How a record is read from text: as `Decoded.RecordShape`, with `store` reading field `i`'s
value from the cursor. -/
structure TextRecord (σ α : Type) where
  name : String
  fields : List String
  required : Nat
  empty : σ
  store : σ → Nat → Scan σ
  finish : σ → α

def firstMissing (fields : List String) (required : Nat) (seen : List Nat) : Option String :=
  ((fields.take required).zipIdx.find? (fun (_, i) => !seen.contains i)).map Prod.fst

/-- The fields of a record written as an object, after its `{`. -/
def recordFields (shape : TextRecord σ α) : Nat → Bool → σ → List Nat → Scan α
  | 0, _, st, _ => pure (shape.finish st)
  | fuel + 1, first, st, seen => do
    match ← mapError (DecodeError.within .unknown) (nextKey first) with
    | none =>
      match firstMissing shape.fields shape.required seen with
      | some f => failBare (.missingField f)
      | none => pure (shape.finish st)
    | some k =>
      match shape.fields.idxOf? k with
      | none => mapError (DecodeError.within (.key k)) (failBare (.unknownField k shape.fields))
      | some i =>
        if seen.contains i then failBare (.duplicateField k)
        else do
          let st' ← mapError (DecodeError.within (.key k)) (do colon; shape.store st i)
          recordFields shape fuel false st' (i :: seen)

/-- The fields of a record written as an array, after its `[`: in declaration order, as many as
are given. -/
def recordItems (shape : TextRecord σ α) : List Nat → σ → Scan α
  | [], st => pure (shape.finish st)
  | i :: rest, st => do
    if ← nextItem (i == 0) then do
      let st' ← mapError (DecodeError.within (.index i)) (shape.store st i)
      recordItems shape rest st'
    else if i < shape.required then
      failBare (.invalidLength i
        ("struct " ++ shape.name ++ " with " ++ toString shape.fields.length ++ " elements"))
    else pure (shape.finish st)

/-- A record, written as an object or as an array; `room` is the allowance where it stands. -/
def record (room : Nat) (shape : TextRecord σ α) : Scan α := level (fixing (do
  match ← skipBlank with
  | none => failAhead .eofValue
  | some 123 =>
    if room ≤ 1 then failAhead .recursionLimit
    else enter (withRemaining (fun fuel => recordFields shape fuel true shape.empty [])) endMap
  | some 91 =>
    if room ≤ 1 then failAhead .recursionLimit
    else enter (recordItems shape (List.range shape.fields.length) shape.empty) endSeq
  | some _ => invalidType ("struct " ++ shape.name)))

/-- A value of any shape matched by `pick`; `enumName` names what did not match. -/
def untagged (room : Nat) (enumName : String) (pick : Json → Option α) : Scan α := level (do
  let content ← value room
  match pick content with
  | some a => pure a
  | none => failBare (.noVariantMatched enumName))

end Scan

end OpenApiGen
