import OpenApiGen.Json.Value

/-!
Operations: what one method of one path documents, and the table of all paths.
-/

namespace OpenApiGen

/-- HTTP methods of a route. -/
inductive Method where
  | all
  | get
  | post
  | put
  | delete
  | patch
  | options
  | head
  deriving DecidableEq, Inhabited

namespace Method

def name : Method → String
  | .all => "all"
  | .get => "get"
  | .post => "post"
  | .put => "put"
  | .delete => "delete"
  | .patch => "patch"
  | .options => "options"
  | .head => "head"

def variants : List Method := [.all, .get, .post, .put, .delete, .patch, .options, .head]

def ofName? (s : String) : Option Method := variants.find? (fun m => m.name == s)

end Method

inductive Location where
  | path
  | query
  deriving DecidableEq, Inhabited

structure Parameter where
  location : Location
  name : String
  required : Bool
  description : Option String
  schema : Json
  deriving Inhabited

def Parameter.toJson (p : Parameter) : Json :=
  .object ([("in", .string (match p.location with | .path => "path" | .query => "query")),
    ("name", .string p.name), ("required", .bool p.required)] ++
    (match p.description with | some d => [("description", .string d)] | none => []) ++
    [("schema", p.schema)])

/-- What one method of one path documents. -/
structure Operation where
  description : Option String := none
  parameters : List Parameter := []
  requestBody : Option Json := none
  deriving Inhabited

namespace Operation

def merge (earlier later : Operation) : Operation :=
  { description := later.description.orElse (fun _ => earlier.description)
    parameters := earlier.parameters ++ later.parameters
    requestBody := later.requestBody.orElse (fun _ => earlier.requestBody) }

def jsonBody (schema : Json) : Json :=
  .object [("required", .bool true),
    ("content", .object [("application/json", .object [("schema", schema)])])]

def toJson (op : Operation) : Json :=
  .object ((match op.description with | some d => [("description", .string d)] | none => []) ++
    (if op.parameters.isEmpty then [] else
      [("parameters", .array (op.parameters.map Parameter.toJson))]) ++
    (match op.requestBody with | some s => [("requestBody", jsonBody s)] | none => []))

end Operation

abbrev PathTable := List (String × List (Method × Operation))

namespace PathTable

/-- Merge `op` under `method` of `key` into the methods of one path. -/
def addMethod : List (Method × Operation) → Method → Operation → List (Method × Operation)
  | [], m, op => [(m, op)]
  | (m', o) :: rest, m, op =>
    if m' == m then (m', o.merge op) :: rest else (m', o) :: addMethod rest m op

/-- Merge `op` under `key` and `method`; a new path or method goes last. -/
def add : PathTable → String → Method → Operation → PathTable
  | [], key, m, op => [(key, [(m, op)])]
  | (k, ms) :: rest, key, m, op =>
    if k == key then (k, addMethod ms m op) :: rest else (k, ms) :: add rest key m op

def toJson (t : PathTable) : Json :=
  .object (t.map (fun (k, ms) => (k, .object (ms.map (fun (m, op) => (m.name, op.toJson))))))

end PathTable

end OpenApiGen
