import OpenApiGen.Pattern.Syntax
import OpenApiGen.Pattern.Class
import OpenApiGen.Unicode.Names
import OpenApiGen.Unicode.Category
import OpenApiGen.Unicode.Script
import OpenApiGen.Unicode.Binary
import OpenApiGen.Unicode.Age
import OpenApiGen.Unicode.Break
/-!
Unicode classes named in patterns, and the code points they stand for.
-/

namespace OpenApiGen.Pattern

open Unicode

/-- The long name of a general category, also `Any`, `Assigned` and `ASCII`, by loose name. -/
def categoryName? (loose : String) : Option String :=
  match loose with
  | "any" => some "Any"
  | "assigned" => some "Assigned"
  | "ascii" => some "ASCII"
  | _ => categoryValueNames.lookup loose

def categoryClass (name : String) : Except ErrorKind Ranges :=
  match name with
  | "ASCII" => pure [(0, 0x7F)]
  | "Any" => pure scalarValues
  | "Assigned" => pure (Ranges.diff scalarValues (categoryRanges ["Cn"]))
  | _ =>
    match categoryCodesOf name with
    | [] => throw .unicodePropertyValueNotFound
    | codes => pure (categoryRanges codes)

/-- The code points of a script by long name; a script without code points is not found. -/
def scriptClass (name : String) (extensions : Bool) : Except ErrorKind Ranges :=
  if name == "Unknown" || (scriptIndex? name).isNone then throw .unicodePropertyValueNotFound
  else pure (if extensions then scriptExtensionRanges name else scriptRanges name)

def namedClass (name : String) : Except ErrorKind Ranges :=
  let loose := looseName name
  let property := if loose == "cf" || loose == "sc" || loose == "lc" then none
    else propertyNames.lookup loose
  match property with
  | some canonical =>
    match binaryRanges? canonical with
    | some rs => pure rs
    | none => throw .unicodePropertyNotFound
  | none =>
    match categoryName? loose with
    | some category => categoryClass category
    | none =>
      match scriptValueNames.lookup loose with
      | some script => scriptClass script false
      | none => throw .unicodePropertyNotFound

def valueClass (name value : String) : Except ErrorKind Ranges := do
  let looseValue := looseName value
  let some property := propertyNames.lookup (looseName name) | throw .unicodePropertyNotFound
  match property with
  | "General_Category" =>
    let some category := categoryName? looseValue | throw .unicodePropertyValueNotFound
    categoryClass category
  | "Script" =>
    let some script := scriptValueNames.lookup looseValue | throw .unicodePropertyValueNotFound
    scriptClass script false
  | _ =>
    let some values := valueNamesOf? property | throw .unicodePropertyValueNotFound
    let some canonical := values.lookup looseValue | throw .unicodePropertyValueNotFound
    match property with
    | "Age" =>
      match ageRanges? canonical with
      | some rs => pure rs
      | none => throw .unicodePropertyValueNotFound
    | "Script_Extensions" => scriptClass canonical true
    | "Grapheme_Cluster_Break" | "Word_Break" | "Sentence_Break" =>
      match breakRanges? property canonical with
      | some rs => pure rs
      | none => throw .unicodePropertyValueNotFound
    | _ => throw .unicodePropertyNotFound

def PropertyQuery.resolve : PropertyQuery → Except ErrorKind Ranges
  | .oneLetter c => namedClass (toString c)
  | .named name => namedClass name
  | .byValue name value _ => valueClass name value

def PropertyQuery.isNotEqual : PropertyQuery → Bool
  | .byValue _ _ equal => !equal
  | _ => false

end OpenApiGen.Pattern
