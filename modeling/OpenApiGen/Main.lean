import OpenApiGen.Cli.Run

/-!
# The program

The command line runs against the real file system: `FileStore IO` performs each operation and
turns the system's failures into `IoError`s by their error codes. What the run prints goes to
standard output and standard error, and its status is the exit code.
-/

open System (FilePath)

namespace OpenApiGen.Cli

def osCode? : IO.Error → Option UInt32
  | .alreadyExists _ c _ | .otherError c _ | .resourceBusy c _ | .resourceVanished c _
  | .unsupportedOperation c _ | .hardwareFault c _ | .unsatisfiedConstraints c _
  | .illegalOperation c _ | .protocolError c _ | .timeExpired c _ | .interrupted _ c _
  | .noFileOrDirectory _ c _ | .invalidArgument _ c _ | .permissionDenied _ c _
  | .resourceExhausted _ c _ | .inappropriateType _ c _ | .noSuchThing _ c _ => some c
  | _ => none

def ioErrorOf (e : IO.Error) : IoError :=
  match osCode? e with
  | some 2 => .notFound
  | some 13 => .permissionDenied
  | some 17 => .alreadyExists
  | some 20 => .notADirectory
  | some 21 => .isADirectory
  | some 22 => .invalidInput
  | some c => .other (toString e ++ " (os error " ++ toString c ++ ")")
  | none =>
    match e with
    | .userError _ => .other "stream did not contain valid UTF-8"
    | _ => .other (toString e)

def attempt (act : IO α) : IO (Except IoError α) := do
  try return .ok (← act)
  catch e => return .error (ioErrorOf e)

def kindOnDisk? (p : String) : IO (Option EntryKind) := do
  if p.isEmpty then return none
  match ← (FilePath.metadata ⟨p⟩).toBaseIO with
  | .ok md => return some (if md.type == IO.FS.FileType.dir then .directory else .file)
  | .error _ => return none

/-- The real file system. -/
instance : FileStore IO where
  read p := attempt (IO.FS.readFile ⟨p⟩)
  write p text := attempt (IO.FS.writeFile ⟨p⟩ text)
  makeDirs p := attempt (IO.FS.createDirAll ⟨p⟩)
  kindOf? := kindOnDisk?
  list p := attempt do
    let entries ← FilePath.readDir ⟨p⟩
    entries.toList.mapM (fun e => do
      return (e.fileName, ((← kindOnDisk? e.path.toString).getD .file)))

end OpenApiGen.Cli

def main (args : List String) : IO UInt32 := do
  let outcome ← OpenApiGen.Cli.runCommandLine args
  IO.print outcome.stdout
  IO.eprint outcome.stderr
  return outcome.status.toUInt32
