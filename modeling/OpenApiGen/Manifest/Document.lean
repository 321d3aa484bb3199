import OpenApiGen.Schema.Node
import OpenApiGen.Route.Operation

/-!
Route manifests as written: schema nodes, route paths, routes, mounts and the manifest itself.
-/

namespace OpenApiGen

/-- One schema node as written. -/
structure NodeDoc where
  kind : String
  fields : Option (List (String × NodeDoc)) := none
  element : Option NodeDoc := none
  elements : Option (List NodeDoc) := none
  options : Option (List NodeDoc) := none
  values : Option (List Literal) := none
  value : Option NodeDoc := none
  inner : Option NodeDoc := none
  name : Option String := none
  deriving Inhabited

def NodeDoc.fieldNames : List String :=
  ["kind", "fields", "element", "elements", "options", "values", "value", "inner", "name"]

/-- A route path as written. -/
inductive PathDoc where
  | literal (path : String)
  | pattern (regex : String) (sample : String)
  deriving Inhabited

structure RouteDoc where
  method : Method
  path : PathDoc
  description : Option String := none
  params : Option NodeDoc := none
  body : Option NodeDoc := none
  query : Option NodeDoc := none
  deriving Inhabited

def RouteDoc.fieldNames : List String := ["method", "path", "description", "params", "body", "query"]

/-- A group of routes and nested groups under a common path prefix. -/
structure MountDoc where
  path : PathDoc
  routes : List RouteDoc := []
  mounts : List MountDoc := []
  deriving Inhabited

def MountDoc.fieldNames : List String := ["path", "routes", "mounts"]

/-- A manifest: named definitions, routes, and mounts. -/
structure Manifest where
  definitions : List (String × NodeDoc) := []
  routes : List RouteDoc := []
  mounts : List MountDoc := []
  deriving Inhabited

def Manifest.fieldNames : List String := ["definitions", "routes", "mounts"]

/-- Store `v` under `key`: a present key keeps its position and takes the new value. -/
def insertNamed (entries : List (String × α)) (key : String) (v : α) : List (String × α) :=
  if entries.any (fun p => p.1 == key) then
    entries.map (fun p => if p.1 == key then (key, v) else p)
  else entries ++ [(key, v)]

/-- A number as a double: integers are rounded to the nearest double. -/
def JsonNumber.toFloat : JsonNumber → Float
  | .unsigned n => Float.ofNat n
  | .signed n => Float.ofInt n
  | .double f => f

def Literal.ofContent? : Json → Option Literal
  | .bool b => some (.bool b)
  | .number n => some (.number n.toFloat)
  | .string s => some (.text s)
  | _ => none

/-- The string fields `regex` and `example` of an object, other keys ignored; a repeated one or a
value that is not a string spoils it. -/
def patternFields : List (String × Json) → Option String → Option String → Option PathDoc
  | [], some r, some e => some (.pattern r e)
  | [], _, _ => none
  | (k, v) :: rest, r, e =>
    if k == "regex" then
      match r, v with
      | none, .string s => patternFields rest (some s) e
      | _, _ => none
    else if k == "example" then
      match e, v with
      | none, .string s => patternFields rest r (some s)
      | _, _ => none
    else patternFields rest r e

def PathDoc.ofContent? : Json → Option PathDoc
  | .string s => some (.literal s)
  | .object fs => patternFields fs none none
  | .array [.string r, .string e] => some (.pattern r e)
  | _ => none

end OpenApiGen
