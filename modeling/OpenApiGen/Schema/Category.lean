/-!
The part of a request a schema describes: path parameters, query parameters or the body.
-/

namespace OpenApiGen

/-- Which part of a request a schema describes. -/
inductive Category where
  | params
  | query
  | body
  deriving DecidableEq, Inhabited

def Category.name : Category → String
  | .params => "params"
  | .query => "query"
  | .body => "body"

def Category.ofName? : String → Option Category
  | "params" => some .params
  | "query" => some .query
  | "body" => some .body
  | _ => none

end OpenApiGen
