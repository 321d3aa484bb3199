import OpenApiGen.Cli.Glob
import OpenApiGen.Cli.Store

/-!
# Expanding glob patterns

A pattern is split at `/` into component patterns, each matched against one level of the
directory tree, starting at the working directory (or at `/` for a pattern that starts there). A
component without special characters is looked up directly; any other lists its directory. A
pattern ending in `/` matches directories only.
-/

namespace OpenApiGen.Cli

/-- A path met during the walk, with whether it names a directory. -/
structure Visit where
  path : String
  isDir : Bool
  deriving Inhabited

/-- Work left during the walk. -/
inductive Task where
  /-- A path whose last component must match component pattern `index`. -/
  | check (v : Visit) (index : Nat)
  /-- A path already known to match the whole pattern. -/
  | found (v : Visit)
  /-- A directory that could not be listed. -/
  | failed (path : String) (e : IoError)
  deriving Inhabited

def joinPath (dir name : String) : String :=
  if dir.isEmpty || dir.endsWith "/" then dir ++ name else dir ++ "/" ++ name

/-- The last component of a path, if it is a name (`.` components and trailing `/` ignored). -/
def fileName? (p : String) : Option String :=
  match ((p.splitOn "/").filter (fun s => !s.isEmpty && s != ".")).getLast? with
  | some ".." => none
  | n => n

/-- The tasks that component patterns `pats` (the one at `index` first) make of a path, in the
order they are stacked: a literal component is looked up at once, going on to the next component;
any other lists the directory. -/
def expandStep [Monad m] [FileStore m] : List GlobPattern → Nat → Visit → m (List Task)
  | [], _, _ => pure []
  | pat :: more, index, v => do
    let here := v.path == "."
    match pat.literal? with
    | some s =>
      let special := s == "." || s == ".."
      let next := if here then s else joinPath v.path s
      let kind ← FileStore.kindOf? next
      if (special && v.isDir) || (!special && kind.isSome) then
        let nv : Visit := ⟨next, kind == some EntryKind.directory⟩
        match more with
        | [] => pure [.found nv]
        | _ => expandStep more (index + 1) nv
      else pure []
    | none =>
      if !v.isDir then pure []
      else
        match ← FileStore.list v.path with
        | .error e => pure [.failed v.path e]
        | .ok entries =>
          let children := entries.map (fun (n, k) =>
            (n, (⟨if here then n else joinPath v.path n, k == EntryKind.directory⟩ : Visit)))
          let sorted := children.mergeSort (fun a b => b.1 ≤ a.1)
          let listed := sorted.map (fun (_, c) => Task.check c index)
          let onDot := pat.startsWithDot && pat.matches "."
          let onDots := pat.startsWithDot && pat.matches ".."
          let dotKind ← FileStore.kindOf? (joinPath v.path ".")
          let dotsKind ← FileStore.kindOf? (joinPath v.path "..")
          let dot : Visit := ⟨joinPath v.path ".", dotKind == some EntryKind.directory⟩
          let dots : Visit := ⟨joinPath v.path "..", dotsKind == some EntryKind.directory⟩
          let fromDot ← if !onDot then pure [] else
            match more with
            | [] => pure [Task.found dot]
            | _ => expandStep more (index + 1) dot
          let fromDots ← if !onDots then pure [] else
            match more with
            | [] => pure [Task.found dots]
            | _ => expandStep more (index + 1) dots
          return listed ++ fromDot ++ fromDots

/-- The index of the last `**` component in the run of them starting at `index`. -/
def lastOfRun (pats : List GlobPattern) (index : Nat) : Nat :=
  index + (((pats.drop (index + 1)).takeWhile (·.recursive))).length

/-- Match a visited path's name against component pattern `index`: the tasks it stacks and the
path it yields. -/
def matchVisit [Monad m] [FileStore m] (pats : List GlobPattern) (needDir : Bool) (v : Visit)
    (index : Nat) : m (List Task × Option String) :=
  match fileName? v.path with
  | none => pure ([], none)
  | some name =>
    if (pats.getD index default).matches name then
      if index + 1 == pats.length then
        pure ([], if !needDir || v.isDir then some v.path else none)
      else do return (← expandStep (pats.drop (index + 1)) (index + 1) v, none)
    else pure ([], none)

def visit [Monad m] [FileStore m] (pats : List GlobPattern) (needDir : Bool) (v : Visit)
    (index : Nat) : m (List Task × Option String) :=
  if (pats.getD index default).recursive then
    let next := lastOfRun pats index
    if v.isDir then do
      let below ← expandStep (pats.drop next) next v
      if next + 1 == pats.length then return (below, some v.path)
      else
        let (more, found) ← matchVisit pats needDir v (next + 1)
        return (below ++ more, found)
    else if next + 1 == pats.length then pure ([], none)
    else matchVisit pats needDir v (next + 1)
  else matchVisit pats needDir v index

/-- Run the stacked work, at most `fuel` tasks: the paths found, in order, or the first directory
that could not be listed. -/
def runTasks [Monad m] [FileStore m] (pats : List GlobPattern) (needDir : Bool) :
    Nat → List Task → List String → m (Except (String × IoError) (List String))
  | 0, _, acc => pure (.ok acc.reverse)
  | _ + 1, [], acc => pure (.ok acc.reverse)
  | fuel + 1, t :: stack, acc =>
    match t with
    | .failed p e => pure (.error (p, e))
    | .found v => runTasks pats needDir fuel stack (if needDir && !v.isDir then acc else v.path :: acc)
    | .check v index => do
      let (stacked, found) ← visit pats needDir v index
      runTasks pats needDir fuel (stacked.reverse ++ stack) (match found with
        | some p => p :: acc
        | none => acc)

def walkFuel : Nat := 1000000

inductive ExpandError where
  /-- The pattern, or one of its components, is invalid. -/
  | pattern (e : GlobError)
  /-- A directory could not be listed. -/
  | listing (path : String) (e : IoError)

/-- The pieces of a text split at `/`, without a last empty one. -/
def splitComponents (s : String) : List String :=
  match (s.splitOn "/").reverse with
  | "" :: rest => rest.reverse
  | parts => parts.reverse

def expandGlob [Monad m] [FileStore m] (pattern : String) : m (Except ExpandError (List String)) := do
  match GlobPattern.parse pattern with
  | .error e => return .error (.pattern e)
  | .ok _ =>
    let (scope, body) := if pattern.startsWith "/" then ("/", (pattern.drop 1).toString) else (".", pattern)
    let parts := if body.isEmpty then [""] else splitComponents body
    match parts.mapM GlobPattern.parse with
    | .error e => return .error (.pattern e)
    | .ok pats =>
      let start : Visit := ⟨scope, (← FileStore.kindOf? scope) == some EntryKind.directory⟩
      let first ← expandStep pats 0 start
      match ← runTasks pats (pattern.endsWith "/") walkFuel first.reverse [] with
      | .ok paths => return .ok paths
      | .error (p, e) => return .error (.listing p e)

end OpenApiGen.Cli
