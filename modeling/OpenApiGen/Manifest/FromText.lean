import OpenApiGen.Decode.Text
import OpenApiGen.Manifest.Document
import OpenApiGen.Decode.Value

/-!
Manifests decoded straight from JSON text.
-/

namespace OpenApiGen

namespace Scan

def methodName : Scan Method := fixing (do
  match ← skipBlank with
  | none => failAhead .eofValue
  | some 34 => do
    eat
    let s ← string
    match Method.ofName? s with
    | some m => pure m
    | none => failBare (.unknownVariant s (Method.variants.map Method.name))
  | some _ => invalidType "variant identifier")

def unitValue : Scan Unit := fixing (do
  match ← skipBlank with
  | none => failAhead .eofValue
  | some 110 => do eat; ident [117, 108, 108]
  | some _ => invalidType "unit")

def method (room : Nat) : Scan Method := level (do
  match ← skipBlank with
  | some 123 =>
    if room ≤ 1 then failAhead .recursionLimit
    else do
      eat
      let m ← methodName
      colon
      mapError (DecodeError.within (.key m.name)) unitValue
      match ← skipBlank with
      | some 125 => do eat; pure m
      | some _ => failHere .expectedValue
      | none => failHere .eofObject
  | some 34 => methodName
  | some _ => failAhead .expectedValue
  | none => failAhead .eofValue)

def literal (room : Nat) : Scan Literal := untagged room "Literal" Literal.ofContent?

def pathDoc (room : Nat) : Scan PathDoc := untagged room "PathDoc" PathDoc.ofContent?

/-- How a node is read at allowance `inner` inside it: `child` reads a node standing there, and
`grandchild` one inside a container there. -/
def nodeShape (inner : Nat) (child grandchild : Scan NodeDoc) : TextRecord NodeDoc NodeDoc where
  name := "NodeDoc"
  fields := NodeDoc.fieldNames
  required := 1
  empty := { kind := "" }
  store d i := match i with
    | 0 => do return { d with kind := ← textString }
    | 1 => do return { d with fields := ← optional (mappingOf inner grandchild) }
    | 2 => do return { d with element := ← optional child }
    | 3 => do return { d with elements := ← optional (sequenceOf inner grandchild) }
    | 4 => do return { d with options := ← optional (sequenceOf inner grandchild) }
    | 5 => do return { d with values := ← optional (sequenceOf inner (literal (inner - 1))) }
    | 6 => do return { d with value := ← optional child }
    | 7 => do return { d with inner := ← optional child }
    | _ => do return { d with name := ← optional textString }
  finish d := d

def node : Nat → Scan NodeDoc
  | 0 => record 0 (nodeShape 0 (failHere .recursionLimit) (failHere .recursionLimit))
  | 1 => record 1 (nodeShape 0 (failHere .recursionLimit) (failHere .recursionLimit))
  | r + 2 => record (r + 2) (nodeShape (r + 1) (node (r + 1)) (node r))

def routeShape (inner : Nat) : TextRecord RouteDoc RouteDoc where
  name := "RouteDoc"
  fields := RouteDoc.fieldNames
  required := 2
  empty := { method := .get, path := .literal "" }
  store d i := match i with
    | 0 => do return { d with method := ← method inner }
    | 1 => do return { d with path := ← pathDoc inner }
    | 2 => do return { d with description := ← optional textString }
    | 3 => do return { d with params := ← optional (node inner) }
    | 4 => do return { d with body := ← optional (node inner) }
    | _ => do return { d with query := ← optional (node inner) }
  finish d := d

def route (room : Nat) : Scan RouteDoc := record room (routeShape (room - 1))

/-- How a mount is read at allowance `inner` inside it; `grandchild` reads a mount inside a
container there. -/
def mountShape (inner : Nat) (grandchild : Scan MountDoc) : TextRecord MountDoc MountDoc where
  name := "MountDoc"
  fields := MountDoc.fieldNames
  required := 1
  empty := { path := .literal "" }
  store d i := match i with
    | 0 => do return { d with path := ← pathDoc inner }
    | 1 => do return { d with routes := ← sequenceOf inner (route (inner - 1)) }
    | _ => do return { d with mounts := ← sequenceOf inner grandchild }
  finish d := d

def mount : Nat → Scan MountDoc
  | 0 => record 0 (mountShape 0 (failHere .recursionLimit))
  | 1 => record 1 (mountShape 0 (failHere .recursionLimit))
  | r + 2 => record (r + 2) (mountShape (r + 1) (mount r))

def manifestShape (inner : Nat) : TextRecord Manifest Manifest where
  name := "Manifest"
  fields := Manifest.fieldNames
  required := 0
  empty := {}
  store d i := match i with
    | 0 => do return { d with definitions := ← mappingOf inner (node (inner - 1)) }
    | 1 => do return { d with routes := ← sequenceOf inner (route (inner - 1)) }
    | _ => do return { d with mounts := ← sequenceOf inner (mount (inner - 1)) }
  finish d := d

end Scan

def Manifest.readText (text : String) : Decoded Manifest :=
  match Scan.record Json.textRoom (Scan.manifestShape (Json.textRoom - 1)) (Cursor.ofString text) with
  | .ok m _ => .ok m
  | .error e _ => .error e

end OpenApiGen
