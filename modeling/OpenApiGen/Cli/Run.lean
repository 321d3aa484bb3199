import OpenApiGen.Cli.Parse
import OpenApiGen.Cli.Expand
import OpenApiGen.Docs.State
import OpenApiGen.Manifest.FromText
import OpenApiGen.Manifest.FromJson
import OpenApiGen.Jq.Run
import OpenApiGen.Json.Print
import OpenApiGen.Json.Read

/-!
# Running a command line

`runCommandLine` reads the words, then runs the request against a `FileStore`:
-/

namespace OpenApiGen.Cli

/-- What a run printed and how it ended. -/
structure Outcome where
  status : Nat
  stdout : String
  stderr : String
  deriving Inhabited

inductive Failure where
  /-- A failure and its causes, outermost first. -/
  | chain (causes : List String)
  /-- The component counter passed the 32-bit range. -/
  | overflow
  deriving Inhabited

abbrev Run (m : Type → Type) := ExceptT Failure m

variable {m : Type → Type} [Monad m] [FileStore m]

def failWith (causes : List String) : Run m α := throw (.chain causes)

def failOn (context : List String) : Error → Run m α
  | .counterExhausted => throw .overflow
  | e => throw (.chain (context ++ e.chain))

def resolveContext : String := "failed to resolve input file paths"

/-- The paths an input names: a glob pattern's matches, or the input itself. -/
def resolveInput (input : String) : Run m (List String) := do
  if !isGlob input then return [input]
  match ← (expandGlob input : m _) with
  | .error (.pattern e) => failWith [resolveContext, "invalid glob pattern: " ++ input, e.message]
  | .error (.listing p e) =>
    failWith [resolveContext, "attempting to read `" ++ p ++ "` resulted in an error: " ++ e.message]
  | .ok [] => failWith [resolveContext, "glob pattern matched no files: " ++ input]
  | .ok paths => return paths

def manifestsAfterFilter (path : String) : List Json → Run m (List Manifest)
  | [] => pure []
  | v :: rest => do
    match Manifest.ofJson v with
    | .error e => failOn ["invalid manifest after jq (" ++ path ++ ")"] (.decode e)
    | .ok mf => return mf :: (← manifestsAfterFilter path rest)

def loadFile (filter : Option String) (path : String) : Run m (List Manifest) := do
  let text ← match ← (FileStore.read path : m _) with
    | .error e => failWith ["failed to read source file (" ++ path ++ ")", e.message]
    | .ok t => pure t
  match filter with
  | none =>
    match Manifest.readText text with
    | .error e => failOn ["invalid manifest (" ++ path ++ ")"] (.decode e)
    | .ok mf => return [mf]
  | some program =>
    match Json.parse text with
    | .error e => failWith ["failed to parse JSON source file (" ++ path ++ ")", e.message]
    | .ok v =>
      match Jq.run program v with
      | .failed msg | .crashed msg =>
        failWith ["failed to apply jq expression to source file (" ++ path ++ ")", msg]
      | .values outs => manifestsAfterFilter path outs

def loadManifests (s : InputSettings) : Run m (List Manifest) := do
  let paths ← s.input.mapM resolveInput
  let groups ← paths.flatten.mapM (loadFile s.jqExpr)
  return groups.flatten

def loadTemplate : Option String → Run m Json
  | none => pure defaultTemplate
  | some path => do
    match ← (FileStore.read path : m _) with
    | .error e => failOn [] (.template path e)
    | .ok text =>
      match Json.readPrefix text with
      | .error e => failOn [] (.decode e)
      | .ok v => pure v

def registerAll (d : Docs) : List Manifest → Run m Docs
  | [] => pure d
  | mf :: rest =>
    match d.register mf with
    | (_, some e) => failOn [] e
    | (d', none) => registerAll d' rest

/-- The directory a file is written in, when the path names one. -/
def parentPath (p : String) : Option String :=
  let parts := (p.splitOn "/").reverse.dropWhile (fun s => s.isEmpty || s == ".") |>.reverse
  match parts with
  | [] | [_] => none
  | ps =>
    let parent := "/".intercalate ps.dropLast
    if parent.isEmpty then some "/" else some parent

def writeDocument (path text : String) : Run m Unit := do
  match parentPath path with
  | some dir =>
    match ← (FileStore.makeDirs dir : m _) with
    | .error e => failOn [] (.write path e)
    | .ok () => pure ()
  | none => pure ()
  match ← (FileStore.write path text : m _) with
  | .error e => failOn [] (.write path e)
  | .ok () => pure ()

/-- Run `openapi`: what it prints on standard output and on standard error. -/
def runDocument (r : DocumentRequest) : Run m (String × String) := do
  let template ← loadTemplate r.template
  let manifests ← loadManifests r.settings
  let docs ← registerAll (Docs.new r.settings.firstTypeIndex template) manifests
  let text := Json.render r.settings.pretty docs.document
  match r.out with
  | some path => do
    writeDocument path text
    return ("", "wrote " ++ path ++ "\n")
  | none => return (text ++ "\n", "")

def isUnion : Schema → Bool
  | .union _ => true
  | _ => false

def runSchema (r : SchemaRequest) : Run m String := do
  let manifests ← loadManifests r.settings
  match manifests with
  | [mf] =>
    let lowered ← match mf.lower 0 with
      | .ok l => pure l
      | .error e => failOn [] e
    let node ← match lowered.definition r.definition with
      | .ok n => pure n
      | .error e => failOn [] e
    if r.category != .body && isUnion node then failOn [] (.unsupportedRootUnion r.category)
    match convert r.category lowered.bodies node (Registry.new r.settings.firstTypeIndex) with
    | .error e => failOn [] e
    | .ok (schema, registry) =>
      let out : Json := .object [("schema", schema), ("components", .object registry.schemas)]
      return Json.render r.settings.pretty out ++ "\n"
  | other => failWith ["expected exactly one manifest, got " ++ toString other.length]

def Failure.outcome : Failure → Outcome
  | .chain causes => ⟨1, "", "error: " ++ ": ".intercalate causes ++ "\n"⟩
  | .overflow => ⟨101, "", "thread 'main' panicked:\nattempt to add with overflow\n"⟩

def runRequest : Request → m Outcome
  | .document r =>
    if r.noOp then pure ⟨0, "", r.echo⟩
    else do
      match ← (runDocument r).run with
      | .ok (out, err) => pure ⟨0, out, err⟩
      | .error f => pure f.outcome
  | .schema r => do
    match ← (runSchema r).run with
    | .ok out => pure ⟨0, out, ""⟩
    | .error f => pure f.outcome

def runCommandLine (words : List String) : m Outcome :=
  match readCommandLine words with
  | .error (.print text) => pure ⟨0, text, ""⟩
  | .error (.refuse text) => pure ⟨2, "", text⟩
  | .ok r => runRequest r

end OpenApiGen.Cli
