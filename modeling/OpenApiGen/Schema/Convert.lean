import OpenApiGen.Schema.Node
import OpenApiGen.Component.Registry

/-!
Schema tree → JSON Schema fragment, with nested types hoisted into the registry.
-/

namespace OpenApiGen

def bigintDescription : String := "Type: bigint"

def dateDescription : String := "Type: date"

def typeOnly (k : String) : Json := .object [("type", .string k)]

/-- A bigint or date schema: annotated in a body, plain in params and query, which carry the note
on the parameter instead. -/
def annotated (category : Category) (ty note : String) : Json :=
  match category with
  | .body => .object [("type", .string ty), ("description", .string note)]
  | _ => typeOnly ty

def primitiveSchema (category : Category) (p : Primitive) (r : Registry) : Json × Registry :=
  match p with
  | .string | .number | .boolean => (typeOnly p.name, r)
  | .bigint => (annotated category "number" bigintDescription, r)
  | .date => (annotated category "string" dateDescription, r)
  | .undefined | .null | .void =>
    (.object [("type", .string p.name), ("example", .string p.name)], r)
  | .any | .unknown => r.anyType

def objectSchema (properties : Fields) (required : List String) : Json :=
  .object [("type", .string "object"), ("properties", .object properties),
    ("required", .array (required.map Json.string))]

mutual

/-- Convert a node; `open_` holds the bodies not yet expanded on this branch. -/
def convert (category : Category) (open_ : Bodies) : Schema → Registry → Except Error (Json × Registry)
  | .primitive p, r => .ok (primitiveSchema category p r)
  | .object fs, r => do
    let (props, req, r') ← convertFields category open_ fs r
    pure (objectSchema props req, r')
  | .array el, r => do
    let (items, r') ← convert category open_ el r
    pure (.object [("type", .string "array"), ("items", items)], r')
  | .tuple els, r => do
    let (name, r1) ← r.reserve none
    let (items, r2) ← convertAll category open_ els r1
    let definition := .object [("type", .string "array"),
      ("items", .object [("anyOf", .array items)])]
    pure (reference name, r2.register none name definition)
  | .union opts, r => do
    let (name, r1) ← r.reserve none
    let (items, r2) ← convertAll category open_ opts r1
    pure (reference name, r2.register none name (.object [("anyOf", .array items)]))
  | .enum vals, r =>
    .ok (.object [("type", .string "enum"), ("enum", .array (vals.map Literal.toJson))], r)
  | .record v, r => convert category open_ v r
  | .ref id, r =>
    match r.lookup (.definition id) with
    | some name => .ok (reference name, r)
    | none => do
      let (name, r1) ← r.reserve (some (.definition id))
      let (definition, r2) ← match _h : Bodies.take? open_ id with
        | some (body, rest) => convert category rest body r1
        | none => .ok (typeOnly "ref", r1)
      pure (reference name, r2.register none name definition)
  | .other k, r => .ok (typeOnly k, r)
termination_by node => (open_.length, sizeOf node)
decreasing_by
  all_goals first
    | (apply Prod.Lex.left; exact Bodies.take?_length _h)
    | (apply Prod.Lex.right; decreasing_tactic)

def convertAll (category : Category) (open_ : Bodies) :
    List Schema → Registry → Except Error (List Json × Registry)
  | [], r => .ok ([], r)
  | n :: rest, r => do
    let (j, r1) ← convert category open_ n r
    let (js, r2) ← convertAll category open_ rest r1
    pure (j :: js, r2)
termination_by items => (open_.length, sizeOf items)
decreasing_by all_goals (apply Prod.Lex.right; decreasing_tactic)

/-- Convert object fields in order: the properties and the names of the required ones. -/
def convertFields (category : Category) (open_ : Bodies) :
    List (String × Schema) → Registry → Except Error (Fields × List String × Registry)
  | [], r => .ok ([], [], r)
  | (k, n) :: rest, r => do
    let (j, r1) ← convert category open_ n r
    let (props, req, r2) ← convertFields category open_ rest r1
    pure ((k, j) :: props, (if n.isRequired then k :: req else req), r2)
termination_by fs => (open_.length, sizeOf fs)
decreasing_by all_goals (apply Prod.Lex.right; decreasing_tactic)

end

end OpenApiGen
