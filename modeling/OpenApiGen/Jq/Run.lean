import OpenApiGen.Jq.Library
import OpenApiGen.Jq.Eval
/-!
Running a jq program on a JSON value.
-/

namespace OpenApiGen.Jq

/-- How a run ended: the outputs as JSON, a failure with its report, or a stop of the machine
with its message. -/
inductive Outcome where
  | values (outs : List Json)
  | failed (report : String)
  | crashed (message : String)
  deriving Inhabited

def runBudget : Nat := 100000000

def quoted (program : String) : String := " in `" ++ program ++ "`"

def lexReport (program : String) (ps : List (LexExpect × String)) : String :=
  "jq parse error: Lex([" ++ ", ".intercalate (ps.map fun (e, rest) =>
    "(" ++ e.debug ++ ", " ++ Text.debugString rest ++ ")") ++ "])" ++ quoted program

def parseReport (program : String) (ps : List (ParseExpect × String)) : String :=
  "jq parse error: Parse([" ++ ", ".intercalate (ps.map fun (e, found) =>
    "(" ++ e.debug ++ ", " ++ Text.debugString found ++ ")") ++ "])" ++ quoted program

def dependencyReport (program : String) (ds : List Dependency) : String :=
  "jq parse error: Io([" ++ ", ".intercalate (ds.map fun d =>
    "(" ++ Text.debugString d.path ++ ", " ++ Text.debugString "module loading not supported" ++
      ")") ++ "])" ++ quoted program

def undefinedReport (program : String) (names : List (String × Undefined)) : String :=
  "\n".intercalate (names.map fun (name, kind) =>
    "jq: undefined `" ++ name ++ "` (" ++ kind.debug ++ ")" ++ quoted program)

/-- The outputs as JSON up to the first exception, which ends the run. -/
def collectOutputs : Outputs → List Json → Outcome
  | .nil, acc => .values acc.reverse
  | .cons (.ok v) rest, acc =>
    let text := v.render
    match Json.parse text with
    | .ok j => collectOutputs (rest ()) (j :: acc)
    | .error e => .failed ("jq output is not JSON: " ++ text ++ ": " ++ e.message)
  | .cons (.error x) _, _ =>
    match x with
    | .error e => .failed ("jq runtime error: " ++ e.debug)
    | .breakTo _ => .failed "jq runtime error: break"
    | .failure m => .crashed m
    | .exhausted => .crashed "evaluation budget exhausted"

def run (program : String) (input : Json) : Outcome :=
  match lex program with
  | .error ps => .failed (lexReport program ps)
  | .ok ts =>
    match parseModule ts with
    | .error ps => .failed (parseReport program ps)
    | .ok m =>
      if !m.deps.isEmpty then .failed (dependencyReport program m.deps)
      else
        match compileProgram standardLibrary m.body with
        | .error names => .failed (undefinedReport program names)
        | .ok p => collectOutputs (p.outputs runBudget (Value.ofJson input)) []

end OpenApiGen.Jq
