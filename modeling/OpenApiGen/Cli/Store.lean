import OpenApiGen.Error

/-!
# Files

The command reads manifests and templates, lists directories to expand glob patterns, and writes
the document. `FileStore` is what it needs from a file system; paths are texts, relative to the
working directory unless they start with `/`.
-/

namespace OpenApiGen.Cli

inductive EntryKind where
  | file
  | directory
  deriving DecidableEq, Inhabited

/-- What the command needs from a file system. -/
class FileStore (m : Type → Type) where
  /-- The text of a file. -/
  read : String → m (Except IoError String)
  /-- Create or replace a file. -/
  write : String → String → m (Except IoError Unit)
  /-- Make a directory and its missing parents. -/
  makeDirs : String → m (Except IoError Unit)
  /-- What a path names, if anything (links followed). -/
  kindOf? : String → m (Option EntryKind)
  /-- The names in a directory, each with what it names. -/
  list : String → m (Except IoError (List (String × EntryKind)))

/-- The components of a path inside the working directory, or `none` when it leaves it. -/
def pathSteps (p : String) : Option (List String) :=
  if p.startsWith "/" then none
  else
    (p.splitOn "/").foldl (fun acc part =>
      match acc with
      | none => none
      | some steps =>
        if part.isEmpty || part == "." then some steps
        else if part == ".." then
          match steps with
          | [] => none
          | _ => some steps.dropLast
        else some (steps ++ [part])) (some [])

/-- Whether a path must name a directory: it ends in `/`, `.` or `..`. -/
def mustBeDirectory (p : String) : Bool :=
  p.endsWith "/" || p == "." || p == ".." || p.endsWith "/." || p.endsWith "/.."

def stepsKey (steps : List String) : String := "/".intercalate steps

/-- A file system held in memory. -/
structure Disk where
  /-- Files by the key of their components, in the order made. -/
  files : List (String × String) := []
  /-- Directories made explicitly, by key. -/
  directories : List String := []
  deriving Inhabited

namespace Disk

def fileAt? (d : Disk) (steps : List String) : Option String := d.files.lookup (stepsKey steps)

def isDirectory (d : Disk) (steps : List String) : Bool :=
  steps.isEmpty ||
    let key := stepsKey steps
    d.directories.contains key || d.files.any (fun (k, _) => k.startsWith (key ++ "/")) ||
      d.directories.any (fun k => k.startsWith (key ++ "/"))

def blocked (d : Disk) (steps : List String) : Bool :=
  (List.range steps.length).any (fun n => n > 0 && (d.fileAt? (steps.take n)).isSome)

def kindAt? (d : Disk) (steps : List String) : Option EntryKind :=
  if (d.fileAt? steps).isSome then some .file
  else if d.isDirectory steps then some .directory
  else none

def missing (d : Disk) (steps : List String) : IoError :=
  if d.blocked steps then .notADirectory else .notFound

def read (d : Disk) (p : String) : Except IoError String :=
  if p.isEmpty then .error .notFound
  else
    match pathSteps p with
    | none => .error .notFound
    | some steps =>
      match d.fileAt? steps with
      | some text => if mustBeDirectory p then .error .notADirectory else .ok text
      | none => if d.isDirectory steps then .error .isADirectory else .error (d.missing steps)

def write (d : Disk) (p : String) (text : String) : Except IoError Disk :=
  if p.isEmpty then .error .notFound
  else
    match pathSteps p with
    | none => .error .notFound
    | some steps =>
      let key := stepsKey steps
      if d.isDirectory steps then .error .isADirectory
      else if (d.fileAt? steps).isSome then
        if mustBeDirectory p then .error .notADirectory
        else .ok { d with files := d.files.map (fun (k, t) => if k == key then (k, text) else (k, t)) }
      else if mustBeDirectory p then .error .isADirectory
      else if d.blocked steps then .error .notADirectory
      else if !d.isDirectory steps.dropLast then .error .notFound
      else .ok { d with files := d.files ++ [(key, text)] }

def makeDirs (d : Disk) (p : String) : Except IoError Disk :=
  match pathSteps p with
  | none => .error .notFound
  | some steps =>
    if (d.fileAt? steps).isSome then .error .alreadyExists
    else if d.blocked steps then .error .notADirectory
    else if d.isDirectory steps then .ok d
    else .ok { d with directories := d.directories ++ [stepsKey steps] }

def kindOf? (d : Disk) (p : String) : Option EntryKind :=
  if p.isEmpty then none
  else
    match pathSteps p with
    | none => none
    | some steps =>
      match d.kindAt? steps with
      | some .file => if mustBeDirectory p then none else some .file
      | k => k

def list (d : Disk) (p : String) : Except IoError (List (String × EntryKind)) :=
  match pathSteps p with
  | none => .error .notFound
  | some steps =>
    if !d.isDirectory steps then
      .error (if (d.fileAt? steps).isSome then .notADirectory else d.missing steps)
    else
      let keys := d.files.map Prod.fst ++ d.directories
      let inside := keys.filterMap (fun k =>
        if steps.isEmpty then some k
        else if k.startsWith (stepsKey steps ++ "/") then some (k.drop ((stepsKey steps).length + 1)).toString
        else none)
      let names := (inside.filterMap (fun k => (k.splitOn "/").head?)).eraseDups
      .ok (names.map (fun n => (n, (d.kindAt? (steps ++ [n])).getD .file)))

def ofFiles (files : List (String × String)) : Disk :=
  { files := files.filterMap (fun (p, t) => (pathSteps p).map (fun s => (stepsKey s, t))) }

/-- The files of `after` that are new or changed since `before`, by path. -/
def changedSince (after before : Disk) : List (String × String) :=
  after.files.filter (fun (k, t) => before.files.lookup k != some t)

end Disk

/-- The disk as the command's file system, its state threaded through. -/
instance : FileStore (StateM Disk) where
  read p := do return (← get).read p
  write p text := do
    match (← get).write p text with
    | .ok d => set d; pure (.ok ())
    | .error e => pure (.error e)
  makeDirs p := do
    match (← get).makeDirs p with
    | .ok d => set d; pure (.ok ())
    | .error e => pure (.error e)
  kindOf? p := do return (← get).kindOf? p
  list p := do return (← get).list p

end OpenApiGen.Cli
