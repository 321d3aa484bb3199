/-!
# The command line's grammar

The program takes a subcommand, `openapi` or `schema`, followed by its switches. This module
lists the switches, how each is written and described, and renders the help pages and usage lines
built from that list.
-/

namespace OpenApiGen.Cli

def programName : String := "schema-openapi"

def programVersion : String := "0.1.0"

/-- What the program does, shown at the top of its help page. -/
def programAbout : String := "build OpenAPI 3.0 documentation from JSON route manifests"

/-- The switches of the subcommands. -/
inductive Switch where
  | jqExpr
  | input
  | firstTypeIndex
  | pretty
  | template
  | out
  | noOp
  | definition
  | category
  | help
  deriving DecidableEq, Inhabited, Repr

/-- How the values of a switch are read. -/
inductive ValueKind where
  /-- Any text. -/
  | text
  /-- A path: any text but the empty one. -/
  | path
  /-- A 32-bit unsigned number. -/
  | count
  /-- One of a fixed list of names. -/
  | choice (names : List String)
  deriving Inhabited

/-- How a switch is written and described. -/
structure SwitchSpec where
  switch : Switch
  long : String
  short : Option Char := none
  /-- The placeholder of the value, for a switch that takes one. -/
  placeholder : Option String := none
  /-- Whether one use of the switch takes one value or more. -/
  many : Bool := false
  required : Bool := false
  kind : ValueKind := .text
  defaultValue : Option String := none
  description : String
  deriving Inhabited

namespace SwitchSpec

def takesValue (s : SwitchSpec) : Bool := s.placeholder.isSome

/-- The names a value may take, for a switch with a fixed list. -/
def choices (s : SwitchSpec) : List String :=
  match s.kind with
  | .choice names => names
  | _ => []

def display (s : SwitchSpec) : String :=
  "--" ++ s.long ++
    match s.placeholder with
    | some p => " <" ++ p ++ ">" ++ (if s.many then "..." else "")
    | none => ""

/-- The notes after a description: the default value and the names allowed. -/
def notes (s : SwitchSpec) : String :=
  let dflt := match s.defaultValue with
    | some v => ["[default: " ++ v ++ "]"]
    | none => []
  let names := match s.choices with
    | [] => []
    | cs => ["[possible values: " ++ ", ".intercalate cs ++ "]"]
  " ".intercalate (dflt ++ names)

def fullDescription (s : SwitchSpec) : String :=
  match s.notes with
  | "" => s.description
  | n => if s.description.isEmpty then n else s.description ++ " " ++ n

end SwitchSpec

def helpSwitch : SwitchSpec :=
  { switch := .help, long := "help", short := some 'h', description := "Print help" }

/-- The switches both subcommands take: how manifests are read and the output written. -/
def inputSwitches : List SwitchSpec :=
  [{ switch := .jqExpr, long := "jq-expr", placeholder := some "JQ_EXPR",
     description := "JQ pre-process filter for each manifest; every output is one manifest" },
   { switch := .input, long := "input", short := some 'i', placeholder := some "INPUT",
     many := true, required := true,
     description := "One or more manifests. May be literal paths or quoted glob patterns" },
   { switch := .firstTypeIndex, long := "first-type-index", placeholder := some "FIRST_TYPE_INDEX",
     kind := .count, defaultValue := some "1",
     description := "index of the first generated component name (`type<N>`)" },
   { switch := .pretty, long := "pretty", description := "pretty-print the output" }]

inductive Subcommand where
  /-- Register every manifest and print the whole document. -/
  | document
  /-- Convert one definition of one manifest. -/
  | schema
  deriving DecidableEq, Inhabited

namespace Subcommand

def name : Subcommand → String
  | .document => "openapi"
  | .schema => "schema"

def about : Subcommand → String
  | .document => "register every manifest route and emit the full document"
  | .schema => "convert one manifest definition and print it with the components it produced"

def switches : Subcommand → List SwitchSpec
  | .document => inputSwitches ++
    [{ switch := .template, long := "template", placeholder := some "TEMPLATE", kind := .path,
       description := "template document the generated paths and components are merged into" },
     { switch := .out, long := "out", short := some 'o', placeholder := some "OUT", kind := .path,
       description := "output .json file (stdout if omitted)" },
     { switch := .noOp, long := "no-op", description := "debugging" },
     helpSwitch]
  | .schema => inputSwitches ++
    [{ switch := .definition, long := "definition", placeholder := some "DEFINITION",
       required := true, description := "name of the definition to convert" },
     { switch := .category, long := "category", placeholder := some "CATEGORY",
       kind := .choice ["params", "query", "body"], defaultValue := some "body",
       description := "input category the definition is converted for" },
     helpSwitch]

def ofName? : String → Option Subcommand
  | "openapi" => some .document
  | "schema" => some .schema
  | _ => none

def path (c : Subcommand) : String := programName ++ " " ++ c.name

def findLong? (c : Subcommand) (long : String) : Option SwitchSpec :=
  c.switches.find? (fun s => s.long == long)

def findShort? (c : Subcommand) (short : Char) : Option SwitchSpec :=
  c.switches.find? (fun s => s.short == some short)

def spec (c : Subcommand) (s : Switch) : SwitchSpec :=
  (c.switches.find? (fun x => x.switch == s)).getD helpSwitch

def required (c : Subcommand) : List SwitchSpec := c.switches.filter (·.required)

/-- The usage line a help page shows: every required switch, after `[OPTIONS]`. -/
def helpUsage (c : Subcommand) : String :=
  " ".intercalate ([c.path, "[OPTIONS]"] ++ c.required.map SwitchSpec.display)

/-- The usage line an error shows, given the switches already used: the required switches, then
the used ones, each once. -/
def usage (c : Subcommand) (used : List Switch) : String :=
  if used.isEmpty then c.helpUsage
  else
    let shown := (c.required ++ used.map c.spec).map SwitchSpec.display
    " ".intercalate (c.path :: shown.eraseDups)

end Subcommand

def blanks (n : Nat) : String := String.ofList (List.replicate n ' ')

def pageWidth : Nat := 100

/-- How a switch's names start its line: `-i, --input`, or blanks where there is no letter. -/
def SwitchSpec.names (s : SwitchSpec) : String :=
  (match s.short with
   | some c => "-" ++ String.singleton c ++ ", "
   | none => "    ") ++ s.display

def SwitchSpec.overflows (s : SwitchSpec) (longest : Nat) : Bool :=
  let taken := longest + 8
  let room := s.description.length + s.notes.length
  pageWidth ≥ taken && 10 * taken > 4 * pageWidth && room > pageWidth - taken

def optionLines (switches : List SwitchSpec) : List String :=
  let longest := (switches.map (·.display.length)).foldl max 2
  if switches.any (·.overflows longest) then
    switches.map (fun s => "  " ++ s.names ++ "\n" ++ blanks 10 ++ s.fullDescription)
  else
    switches.map (fun s =>
      "  " ++ s.names ++ blanks (longest + 2 - s.display.length) ++ s.fullDescription)

def Subcommand.helpPage (c : Subcommand) : String :=
  c.about ++ "\n\nUsage: " ++ c.helpUsage ++ "\n\nOptions:\n" ++
    "\n".intercalate (optionLines c.switches) ++ "\n"

def subcommandNames : List String := ["openapi", "schema", "help"]

def topUsage : String := programName ++ " <COMMAND>"

def topHelpPage : String :=
  let commands := [("openapi", Subcommand.document.about), ("schema", Subcommand.schema.about),
    ("help", "Print this message or the help of the given subcommand(s)")]
  let longest := (commands.map (·.1.length)).foldl max 2
  let commandLines := commands.map (fun (n, a) => "  " ++ n ++ blanks (longest + 2 - n.length) ++ a)
  let switches : List SwitchSpec := [helpSwitch,
    { switch := .help, long := "version", short := some 'V', description := "Print version" }]
  programAbout ++ "\n\nUsage: " ++ topUsage ++ "\n\nCommands:\n" ++ "\n".intercalate commandLines ++
    "\n\nOptions:\n" ++ "\n".intercalate (optionLines switches) ++ "\n"

def helpCommandUsage : String := programName ++ " help [COMMAND]..."

def helpCommandPage : String :=
  "Print this message or the help of the given subcommand(s)\n\nUsage: " ++ helpCommandUsage ++
    "\n\nArguments:\n  [COMMAND]...  Print help for the subcommand(s)\n"

def versionLine : String := programName ++ " " ++ programVersion ++ "\n"

end OpenApiGen.Cli
