import OpenApiGen.Route.Assemble
import OpenApiGen.Manifest.Lower
import OpenApiGen.Pattern.Check
import OpenApiGen.Docs.Template

/-!
A documentation run: the template, the registry, the path table, the paths of the mounts being
registered, and the identities for the definitions of the next manifest.
-/

namespace OpenApiGen

/-- The path a route path documents: the path itself, or for a pattern that the checker accepts,
its example. -/
def PathDoc.documented : PathDoc → Except Error String
  | .literal p => .ok p
  | .pattern rx sample =>
    match Pattern.check rx with
    | none => .ok sample
    | some reason => .error (.invalidPattern rx reason)

/-- The state of a documentation run. -/
structure Docs where
  template : Json
  registry : Registry
  paths : PathTable
  mounts : List String
  nextId : DefinitionId
  deriving Inhabited

namespace Docs

def new (first : UInt32) (template : Json := defaultTemplate) : Docs :=
  ⟨template, Registry.new first, [], [], 0⟩

def document (d : Docs) : Json :=
  match d.paths.toJson with
  | .object ps => mergeTemplate d.template ps d.registry.schemas
  | _ => mergeTemplate d.template [] d.registry.schemas

/-- Forget the paths, the components and the mount paths, and restart the counter. -/
def reset (d : Docs) : Docs := { d with registry := d.registry.reset, paths := [], mounts := [] }

/-- The full path of a route path: the mount paths, then its own. -/
def fullPath (d : Docs) (path : String) : String := String.join d.mounts ++ path

def route (d : Docs) (bodies : Bodies) (method : Method) (path : String) (inputs : RouteInputs)
    (description : Option String) : Except Error Docs := do
  let (paths, registry) ←
    d.paths.record d.registry bodies method (d.fullPath path) inputs description
  pure { d with paths, registry }

/-- Run `body` with `segment` pushed on the mount paths, and pop it afterwards, whatever `body`
gave. -/
def nest (segment : String) (body : Docs → Docs × α) (d : Docs) : Docs × α :=
  let (d1, out) := body { d with mounts := d.mounts ++ [segment] }
  ({ d1 with mounts := d1.mounts.dropLast }, out)

/-- Register one route: its path, then its params, body and query nodes are read, then it is
documented. -/
def addRoute (l : Lowered) (r : RouteDoc) (d : Docs) : Except Error Docs := do
  let path ← r.path.documented
  let params ← r.params.mapM l.lower
  let body ← r.body.mapM l.lower
  let query ← r.query.mapM l.lower
  d.route l.bodies r.method path ⟨params, body, query⟩ r.description

def addRoutes (l : Lowered) : List RouteDoc → Docs → Docs × Option Error
  | [], d => (d, none)
  | r :: rest, d =>
    match addRoute l r d with
    | .ok d1 => addRoutes l rest d1
    | .error e => (d, some e)

mutual
/-- Register a mount: its path, then under it its routes, then its mounts. -/
def addMount (l : Lowered) : MountDoc → Docs → Docs × Option Error
  | ⟨path, routes, mounts⟩, d =>
    match path.documented with
    | .error e => (d, some e)
    | .ok segment =>
      d.nest segment fun d1 =>
        match addRoutes l routes d1 with
        | (d2, some e) => (d2, some e)
        | (d2, none) => addMounts l mounts d2

def addMounts (l : Lowered) : List MountDoc → Docs → Docs × Option Error
  | [], d => (d, none)
  | m :: rest, d =>
    match addMount l m d with
    | (d1, some e) => (d1, some e)
    | (d1, none) => addMounts l rest d1
end

/-- Register a manifest; the state reached and the failure that stopped it, if any. -/
def register (m : Manifest) (d : Docs) : Docs × Option Error :=
  let d0 := { d with nextId := d.nextId + m.definitions.length }
  match m.lower d.nextId with
  | .error e => (d0, some e)
  | .ok l =>
    match addRoutes l m.routes d0 with
    | (d1, some e) => (d1, some e)
    | (d1, none) => addMounts l m.mounts d1

end Docs

end OpenApiGen
