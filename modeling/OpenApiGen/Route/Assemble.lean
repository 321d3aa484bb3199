import OpenApiGen.Schema.Convert
import OpenApiGen.Route.Operation
import OpenApiGen.Route.Template

/-!
One route's params, body and query schemas as an operation under its path.
-/

namespace OpenApiGen

/-- The optional top-level schemas of one route. -/
structure RouteInputs where
  params : Option Schema := none
  body : Option Schema := none
  query : Option Schema := none
  deriving Inhabited

/-- The first node of `root`, its body, the body of that, … that is not a reference; `none` when a
reference comes back or has no body. -/
def resolveRoot (bodies : Bodies) : Schema → Option Schema
  | .ref id =>
    match _h : Bodies.take? bodies id with
    | some (b, rest) => resolveRoot rest b
    | none => none
  | n => some n
termination_by bodies.length
decreasing_by exact Bodies.take?_length _h

/-- The note a parameter carries for a bigint or date field, or for the bigint and date fields
directly inside an object field (`"d: date, b: bigint"`). -/
def inlineDescription : Schema → Option String
  | .primitive .bigint => some bigintDescription
  | .primitive .date => some dateDescription
  | .object fs =>
    let notes := fs.filterMap (fun (n, s) => match s with
      | .primitive .date => some (n ++ ": date")
      | .primitive .bigint => some (n ++ ": bigint")
      | _ => none)
    if notes.isEmpty then none else some (", ".intercalate notes)
  | _ => none

/-- The parameter of one field: a reference is not embedded, its description names the
component instead. -/
def fieldParameter (location : Location) (name : String) (field : Schema) (converted : Json) :
    Parameter :=
  let (schema, description) := match referencedName? converted with
    | some c =>
      if c == anyTypeName then (Json.object [], some ("reffered to type " ++ anyTypeName))
      else (Json.object [], some ("reffered to " ++ c))
    | none => (converted, inlineDescription field)
  { location, name, required := field.isRequired, description, schema }

def fieldParameters (category : Category) (bodies : Bodies) (location : Location) :
    List (String × Schema) → Registry → Except Error (List Parameter × Registry)
  | [], r => .ok ([], r)
  | (name, field) :: rest, r => do
    let (converted, r1) ← convert category bodies field r
    let (ps, r2) ← fieldParameters category bodies location rest r1
    pure (fieldParameter location name field converted :: ps, r2)

def parameters (category : Category) (bodies : Bodies) (root : Schema) (r : Registry) :
    Except Error (List Parameter × Registry) :=
  let location := match category with
    | .params => Location.path
    | _ => Location.query
  match resolveRoot bodies root with
  | some (.object fs) => fieldParameters category bodies location fs r
  | some (.union _) => .error (.unsupportedRootUnion category)
  | _ => .ok ([], r)

/-- Inlined objects for the options of a union body; any other option is refused. -/
def objectOptions (bodies : Bodies) : List Schema → Registry → Except Error (List Json × Registry)
  | [], r => .ok ([], r)
  | .object fs :: rest, r => do
    let (j, r1) ← convert .body bodies (.object fs) r
    let (js, r2) ← objectOptions bodies rest r1
    pure (j :: js, r2)
  | _ :: _, _ => .error (.unsupportedRootUnion .body)

def bodySchema (bodies : Bodies) (root : Schema) (r : Registry) : Except Error (Json × Registry) :=
  match root with
  | .union opts => do
    let (js, r1) ← objectOptions bodies opts r
    pure (.object [("anyOf", .array js)], r1)
  | .record v => do
    let (name, r1) ← r.reserve none
    let (definition, r2) ← convert .body bodies v r1
    pure (reference name, r2.register none name definition)
  | n => convert .body bodies n r

/-- The parameters of an optional params or query root; none without a root. -/
def optionalParameters (category : Category) (bodies : Bodies) :
    Option Schema → Registry → Except Error (List Parameter × Registry)
  | some n, r => parameters category bodies n r
  | none, r => .ok ([], r)

def optionalBody (bodies : Bodies) : Option Schema → Registry → Except Error (Option Json × Registry)
  | some n, r => do
    let (s, r') ← bodySchema bodies n r
    pure (some s, r')
  | none, r => .ok (none, r)

/-- The operation of one route's inputs, converted in params, body, query order. -/
def assemble (bodies : Bodies) (inputs : RouteInputs) (description : Option String)
    (r : Registry) : Except Error (Operation × Registry) := do
  let (ps, r1) ← optionalParameters .params bodies inputs.params r
  let (body, r2) ← optionalBody bodies inputs.body r1
  let (qs, r3) ← optionalParameters .query bodies inputs.query r2
  pure ({ description, parameters := ps ++ qs, requestBody := body }, r3)

/-- Convert one route and merge it under its path template and method. -/
def PathTable.record (t : PathTable) (r : Registry) (bodies : Bodies) (method : Method)
    (path : String) (inputs : RouteInputs) (description : Option String) :
    Except Error (PathTable × Registry) := do
  let (op, r') ← assemble bodies inputs description r
  pure (t.add (pathTemplate path) method op, r')

end OpenApiGen
