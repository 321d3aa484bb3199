import OpenApiGen.Manifest.Document
import OpenApiGen.Error

/-!
Lowering: written nodes become schema trees.
-/

namespace OpenApiGen

abbrev DefinitionIds := List (String × DefinitionId)

/-- The failure of a node that lacks the field its kind needs. -/
def missing (kind field : String) : Except Error α := .error (.missingField kind field)

mutual
def lowerNode (ids : DefinitionIds) : NodeDoc → Except Error Schema
  | ⟨kind, fields, element, elements, options, values, value, inner, name⟩ =>
    match Primitive.ofKind? kind with
    | some p => .ok (.primitive p)
    | none =>
      if kind == "object" then
        match fields with
        | some fs => do return .object (← lowerFields ids fs)
        | none => missing kind "fields"
      else if kind == "array" then
        match element with
        | some e => do return .array (← lowerNode ids e)
        | none => missing kind "element"
      else if kind == "tuple" then
        match elements with
        | some es => do return .tuple (← lowerList ids es)
        | none => missing kind "elements"
      else if kind == "union" then
        match options with
        | some os => do return .union (← lowerList ids os)
        | none => missing kind "options"
      else if kind == "enum" then
        match values with
        | some vs => .ok (.enum vs)
        | none => missing kind "values"
      else if kind == "record" then
        match value with
        | some v => do return .record (← lowerNode ids v)
        | none => missing kind "value"
      else if kind == "optional" then
        match inner with
        | some i => do return Schema.optional (← lowerNode ids i)
        | none => missing kind "inner"
      else if kind == "nullable" then
        match inner with
        | some i => do return Schema.nullable (← lowerNode ids i)
        | none => missing kind "inner"
      else if kind == "ref" then
        match name with
        | some n =>
          match ids.find? (fun p => p.1 == n) with
          | some (_, id) => .ok (.ref id)
          | none => .error (.unknownDefinition n)
        | none => missing kind "name"
      else .ok (.other kind)

def lowerList (ids : DefinitionIds) : List NodeDoc → Except Error (List Schema)
  | [] => .ok []
  | d :: rest => do
    let s ← lowerNode ids d
    return s :: (← lowerList ids rest)

def lowerFields (ids : DefinitionIds) : List (String × NodeDoc) → Except Error (List (String × Schema))
  | [] => .ok []
  | (k, d) :: rest => do
    let s ← lowerNode ids d
    return (k, s) :: (← lowerFields ids rest)
end

/-- A manifest whose definitions are lowered: the identity of each name and the body of each
identity. -/
structure Lowered where
  manifest : Manifest
  ids : DefinitionIds
  bodies : Bodies
  deriving Inhabited

/-- Give the definitions the identities from `first` on and lower them in order. -/
def Manifest.lower (m : Manifest) (first : DefinitionId) : Except Error Lowered := do
  let ids := m.definitions.zipIdx.map (fun ((n, _), i) => (n, first + i))
  let bodies ← m.definitions.zipIdx.mapM (fun ((_, d), i) => do
    return (first + i, ← lowerNode ids d))
  pure ⟨m, ids, bodies⟩

namespace Lowered

def lower (l : Lowered) (d : NodeDoc) : Except Error Schema := lowerNode l.ids d

def definition (l : Lowered) (name : String) : Except Error Schema :=
  match l.ids.find? (fun p => p.1 == name) with
  | some (_, id) =>
    match l.bodies.find? (fun p => p.1 == id) with
    | some (_, b) => .ok b
    | none => .error (.unknownDefinition name)
  | none => .error (.unknownDefinition name)

end Lowered

end OpenApiGen
