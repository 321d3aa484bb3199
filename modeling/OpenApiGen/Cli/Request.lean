import OpenApiGen.Schema.Category
import OpenApiGen.Text.Debug

/-!
# What a command line asks for

A parsed command line is a `Request`: document every manifest (`openapi`), or convert one
definition (`schema`). The `openapi` subcommand has a debugging switch that prints the parsed
request instead of running it; `Request.echo` is that print-out, an indented outline of the
request's fields with texts quoted and escaped.
-/

namespace OpenApiGen.Cli

/-- How manifests are read and the output written; both subcommands take these. -/
structure InputSettings where
  /-- A jq filter applied to each manifest file; each of its outputs is one manifest. -/
  jqExpr : Option String
  /-- Manifest paths or glob patterns. -/
  input : List String
  /-- The number of the first generated component name. -/
  firstTypeIndex : UInt32
  /-- Whether the output is indented. -/
  pretty : Bool
  deriving Inhabited

/-- Register every manifest and emit the document. -/
structure DocumentRequest where
  settings : InputSettings
  /-- A file holding the document the generated parts are merged into. -/
  template : Option String
  /-- The file to write the document to, instead of standard output. -/
  out : Option String
  /-- Print the request instead of running it. -/
  noOp : Bool
  deriving Inhabited

/-- Convert one definition of one manifest. -/
structure SchemaRequest where
  settings : InputSettings
  definition : String
  category : Category
  deriving Inhabited

inductive Request where
  | document (r : DocumentRequest)
  | schema (r : SchemaRequest)
  deriving Inhabited

/-- An indented outline of a value: records with named fields, wrappers around one value, and
sequences. -/
inductive Outline where
  | atom (text : String)
  | record (name : String) (fields : List (String × Outline))
  | wrap (name : String) (inner : Outline)
  | seq (items : List Outline)

def outlineIndent (level : Nat) : String := String.ofList (List.replicate (4 * level) ' ')

mutual
/-- An outline standing at `level`; every inner line is indented one level more and ends in a
comma. -/
def Outline.render (level : Nat) : Outline → String
  | .atom t => t
  | .record name [] => name
  | .record name fs =>
    name ++ " \x7b\n" ++ Outline.renderFields (level + 1) fs ++ outlineIndent level ++ "\x7d"
  | .wrap name x =>
    name ++ "(\n" ++ outlineIndent (level + 1) ++ Outline.render (level + 1) x ++ ",\n" ++
      outlineIndent level ++ ")"
  | .seq [] => "[]"
  | .seq xs => "[\n" ++ Outline.renderItems (level + 1) xs ++ outlineIndent level ++ "]"

def Outline.renderFields (level : Nat) : List (String × Outline) → String
  | [] => ""
  | (k, v) :: rest =>
    outlineIndent level ++ k ++ ": " ++ Outline.render level v ++ ",\n" ++
      Outline.renderFields level rest

def Outline.renderItems (level : Nat) : List Outline → String
  | [] => ""
  | x :: rest =>
    outlineIndent level ++ Outline.render level x ++ ",\n" ++ Outline.renderItems level rest
end

/-- A path quoted the way the outline shows paths: like text, with `'` escaped too. -/
def quotePath (p : String) : String :=
  "\"" ++ String.join (p.toList.map (fun c => if c == '\'' then "\\'" else Text.debugChar c)) ++
    "\""

def outlineOption (f : α → String) : Option α → Outline
  | none => .atom "None"
  | some x => .wrap "Some" (.atom (f x))

def outlineBool (b : Bool) : Outline := .atom (if b then "true" else "false")

def InputSettings.outline (s : InputSettings) : Outline :=
  .record "InputSettings"
    [("jq_expr", outlineOption Text.debugString s.jqExpr),
     ("input", .seq (s.input.map (fun p => .atom (Text.debugString p)))),
     ("first_type_index", .atom (toString s.firstTypeIndex)),
     ("pretty", outlineBool s.pretty)]

def DocumentRequest.echo (r : DocumentRequest) : String :=
  let body : Outline := .record "OpenapiOut"
    [("input_settings", r.settings.outline),
     ("template", outlineOption quotePath r.template),
     ("out", outlineOption quotePath r.out),
     ("no_op", outlineBool r.noOp)]
  (Outline.record "CommandLineInterface" [("cmd", .wrap "Openapi" body)]).render 0 ++ "\n"

end OpenApiGen.Cli
