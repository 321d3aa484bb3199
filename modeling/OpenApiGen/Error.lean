import OpenApiGen.Decode.Error
import OpenApiGen.Schema.Category

/-!
The library's failures and their texts.
-/

namespace OpenApiGen

/-- A failed file operation, by the system's error code. -/
inductive IoError where
  | notFound
  | permissionDenied
  | alreadyExists
  | notADirectory
  | isADirectory
  | invalidInput
  /-- Any other failure, by its text. -/
  | other (message : String)
  deriving DecidableEq, Inhabited

def IoError.message : IoError → String
  | .notFound => "No such file or directory (os error 2)"
  | .permissionDenied => "Permission denied (os error 13)"
  | .alreadyExists => "File exists (os error 17)"
  | .notADirectory => "Not a directory (os error 20)"
  | .isADirectory => "Is a directory (os error 21)"
  | .invalidInput => "Invalid argument (os error 22)"
  | .other message => message

inductive Error where
  /-- A union stands as the whole params, query or body schema. -/
  | unsupportedRootUnion (category : Category)
  /-- A reference names no definition of its manifest. -/
  | unknownDefinition (name : String)
  /-- A node lacks the field its kind needs. -/
  | missingField (kind : String) (field : String)
  /-- A manifest or template did not decode. -/
  | decode (e : DecodeError)
  /-- A route pattern is not a valid regular expression; `reason` is the pattern checker's report. -/
  | invalidPattern (pattern : String) (reason : String)
  /-- The template file could not be read. -/
  | template (path : String) (e : IoError)
  /-- The document could not be written. -/
  | write (path : String) (e : IoError)
  /-- A JSON value could not be read or written. -/
  | json (e : DecodeError)
  /-- No component name is left: the counter would pass the 32-bit range. -/
  | counterExhausted
  deriving Inhabited

namespace Error

def message : Error → String
  | .unsupportedRootUnion c => "unsupported root level union (in " ++ c.name ++ ")"
  | .unknownDefinition name => "unknown schema definition `" ++ name ++ "`"
  | .missingField kind field => "schema node of kind `" ++ kind ++ "` is missing `" ++ field ++ "`"
  | .decode e => "at JSON path " ++ e.pathText ++ " → " ++ e.message
  | .invalidPattern pattern reason => "invalid route pattern `" ++ pattern ++ "`: " ++ reason
  | .template path e => "failed to load template " ++ path ++ ": " ++ e.message
  | .write path e => "failed to write " ++ path ++ ": " ++ e.message
  | .json e => e.message
  | .counterExhausted => "attempt to add with overflow"

def chain : Error → List String
  | .decode e => [message (.decode e), e.message]
  | .invalidPattern p reason => [message (.invalidPattern p reason), reason]
  | .template path e => [message (.template path e), e.message]
  | .write path e => [message (.write path e), e.message]
  | e => [message e]

end Error

end OpenApiGen
