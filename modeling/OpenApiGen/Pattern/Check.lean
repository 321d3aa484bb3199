import OpenApiGen.Pattern.Translate
import OpenApiGen.Pattern.Automaton
/-!
Route patterns: regular expressions checked before use.
-/

namespace OpenApiGen.Pattern

def sizeReport : String :=
  "Compiled regex exceeds size limit of " ++ toString sizeLimit ++ " bytes."

/-- The checker's report on a pattern it refuses, `none` for a pattern it accepts. -/
def check (pattern : String) : Option String :=
  match parse pattern with
  | .error e => some (e.render pattern)
  | .ok node =>
    match node.translate with
    | .error e => some (e.render pattern)
    | .ok expr => if expr.fitsSizeLimit then none else some sizeReport

end OpenApiGen.Pattern
