import OpenApiGen.Json.Value
import OpenApiGen.Error
import OpenApiGen.Schema.Node

/-!
The component registry: named, reusable schemas under `#/components/schemas`.
-/

namespace OpenApiGen

/-- What a registered name is remembered by. -/
inductive ComponentKey where
  | definition (id : DefinitionId)
  | anyType
  deriving DecidableEq, Inhabited


def anyTypeName : String := "anyType"

def componentPrefix : String := "#/components/schemas/"

/-- The schema of `anyType`: any of string, number, integer, boolean, array or object. -/
def anyTypeSchema : Json :=
  .object [("anyOf", .array [
    .object [("type", .string "string")],
    .object [("type", .string "number")],
    .object [("type", .string "integer")],
    .object [("type", .string "boolean")],
    .object [("type", .string "array"), ("items", .object [])],
    .object [("type", .string "object")]])]

def reference (name : String) : Json :=
  .object [("$ref", .string (componentPrefix ++ name))]

def referencedName? (fragment : Json) : Option String :=
  match fragment.get? "$ref" with
  | some (.string target) =>
    if target.startsWith componentPrefix then some (target.drop componentPrefix.length).toString
    else none
  | _ => none

/-- The registry: the first and next counter values, the definitions in order, and the memo. -/
structure Registry where
  first : UInt32
  next : UInt32
  schemas : Fields
  memo : List (ComponentKey × String)
  deriving Inhabited

namespace Registry

def new (first : UInt32) : Registry := ⟨first, first, [], []⟩

def allocate (r : Registry) : Except Error (String × Registry) :=
  if r.next = 4294967295 then .error .counterExhausted
  else .ok ("type" ++ toString r.next.toNat, { r with next := r.next + 1 })

def lookup (r : Registry) (key : ComponentKey) : Option String :=
  (r.memo.find? (fun p => p.1 == key)).map Prod.snd

/-- Store a definition under `name` (in place if present), remembering `key` when given. -/
def register (r : Registry) (key : Option ComponentKey) (name : String) (definition : Json) :
    Registry :=
  let memo := match key with
    | none => r.memo
    | some k => (k, name) :: r.memo.filter (fun p => p.1 != k)
  { r with memo := memo, schemas := Fields.insert r.schemas name definition }

/-- Allocate a name and claim its slot with `{}` before its definition is built, so that
components stay in allocation order and a definition can refer to itself. -/
def reserve (r : Registry) (key : Option ComponentKey) : Except Error (String × Registry) := do
  let (name, r') ← r.allocate
  pure (name, r'.register key name (.object []))

def anyType (r : Registry) : Json × Registry :=
  match r.lookup .anyType with
  | some _ => (reference anyTypeName, r)
  | none => (reference anyTypeName, r.register (some .anyType) anyTypeName anyTypeSchema)

def get? (r : Registry) (name : String) : Option Json := Fields.get? r.schemas name

def reset (r : Registry) : Registry := new r.first

end Registry

end OpenApiGen
