import OpenApiGen.Json.Value

/-!
The output document: a template with the generated paths and components merged in.
-/

namespace OpenApiGen

def defaultTemplate : Json :=
  .object [("openapi", .string "3.0.0"),
    ("info", .object [("title", .string "API documentation"), ("version", .string "1.0.0")]),
    ("servers", .array []),
    ("paths", .object []),
    ("components", .object [("schemas", .object [])])]

/-- Take `key` out of the fields: its object (empty if absent or not an object) and the rest. -/
def takeObject (fs : Fields) (key : String) : Fields × Fields :=
  match Fields.swapRemove fs key with
  | (some (.object inner), rest) => (inner, rest)
  | (_, rest) => ([], rest)

def mergeTemplate (template : Json) (paths : Fields) (schemas : Fields) : Json :=
  let doc : Fields := match template with
    | .object fs => fs
    | _ => []
  let (templatePaths, doc1) := takeObject doc "paths"
  let doc2 := Fields.insert doc1 "paths" (.object (Fields.extend templatePaths paths))
  let (components, doc3) := takeObject doc2 "components"
  let (templateSchemas, components1) := takeObject components "schemas"
  let components2 := Fields.insert components1 "schemas"
    (.object (Fields.extend templateSchemas schemas))
  .object (Fields.insert doc3 "components" (.object components2))

end OpenApiGen
