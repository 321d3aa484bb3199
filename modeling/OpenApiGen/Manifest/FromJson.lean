import OpenApiGen.Decode.Value
import OpenApiGen.Manifest.Document

/-!
Manifests decoded from JSON values.
-/

namespace OpenApiGen

namespace Decoded

def methodNamed (s : String) : Decoded Method :=
  match Method.ofName? s with
  | some m => .ok m
  | none => fail (.unknownVariant s (Method.variants.map Method.name))

def method (v : Json) : Decoded Method :=
  level (match v with
    | .string s => methodNamed s
    | .object [(k, x)] => do
      let m ← methodNamed k
      match x with
      | .null => pure m
      | _ => under (.key k) (fail (.invalidType (unexpected x) "unit"))
    | .object _ => fail (.invalidValue .map "map with a single key")
    | _ => fail (.invalidType (unexpected v) "string or map"))

def literal (v : Json) : Decoded Literal :=
  level (match Literal.ofContent? v with
    | some l => .ok l
    | none => fail (.noVariantMatched "Literal"))

def pathDoc (v : Json) : Decoded PathDoc :=
  level (match PathDoc.ofContent? v with
    | some p => .ok p
    | none => fail (.noVariantMatched "PathDoc"))

def nodeShape (child : Json → Decoded NodeDoc) : RecordShape NodeDoc NodeDoc where
  name := "NodeDoc"
  fields := NodeDoc.fieldNames
  required := 1
  empty := { kind := "" }
  store d i x := match i with
    | 0 => do return { d with kind := ← string x }
    | 1 => do return { d with fields := ← optional (mapping child) x }
    | 2 => do return { d with element := ← optional child x }
    | 3 => do return { d with elements := ← optional (sequence child) x }
    | 4 => do return { d with options := ← optional (sequence child) x }
    | 5 => do return { d with values := ← optional (sequence literal) x }
    | 6 => do return { d with value := ← optional child x }
    | 7 => do return { d with inner := ← optional child x }
    | _ => do return { d with name := ← optional string x }
  finish d := d

def node : Nat → Json → Decoded NodeDoc
  | 0, _ => fail .recursionLimit
  | fuel + 1, v => record (nodeShape (node fuel)) v

def routeShape (child : Json → Decoded NodeDoc) : RecordShape RouteDoc RouteDoc where
  name := "RouteDoc"
  fields := RouteDoc.fieldNames
  required := 2
  empty := { method := .get, path := .literal "" }
  store d i x := match i with
    | 0 => do return { d with method := ← method x }
    | 1 => do return { d with path := ← pathDoc x }
    | 2 => do return { d with description := ← optional string x }
    | 3 => do return { d with params := ← optional child x }
    | 4 => do return { d with body := ← optional child x }
    | _ => do return { d with query := ← optional child x }
  finish d := d

def mountShape (fuel : Nat) (child : Json → Decoded MountDoc) : RecordShape MountDoc MountDoc where
  name := "MountDoc"
  fields := MountDoc.fieldNames
  required := 1
  empty := { path := .literal "" }
  store d i x := match i with
    | 0 => do return { d with path := ← pathDoc x }
    | 1 => do return { d with routes := ← sequence (record (routeShape (node fuel))) x }
    | _ => do return { d with mounts := ← sequence child x }
  finish d := d

def mount : Nat → Json → Decoded MountDoc
  | 0, _ => fail .recursionLimit
  | fuel + 1, v => record (mountShape fuel (mount fuel)) v

def manifestShape (fuel : Nat) : RecordShape Manifest Manifest where
  name := "Manifest"
  fields := Manifest.fieldNames
  required := 0
  empty := {}
  store d i x := match i with
    | 0 => do return { d with definitions := ← mapping (node fuel) x }
    | 1 => do return { d with routes := ← sequence (record (routeShape (node fuel))) x }
    | _ => do return { d with mounts := ← sequence (mount fuel) x }
  finish d := d

end Decoded

def NodeDoc.ofJson (v : Json) : Decoded NodeDoc := Decoded.node (v.depth + 1) v

def Manifest.ofJson (v : Json) : Decoded Manifest :=
  Decoded.record (Decoded.manifestShape (v.depth + 1)) v

end OpenApiGen
