/-!
Router paths as OpenAPI path templates: `/users/:id` becomes `/users/{id}`.
-/

namespace OpenApiGen

/-- The template of the characters after `prev`, with a parameter open or not. -/
def templateChars (prev : Option Char) (inParam : Bool) : List Char → List Char
  | [] => if inParam then ['\x7d'] else []
  | c :: rest =>
    if prev.isSome && inParam && (c == '/' || c == '?') then
      '\x7d' :: c :: templateChars (some c) false rest
    else if prev.isSome && prev == some '/' && c == ':' then
      '\x7b' :: templateChars (some c) true rest
    else c :: templateChars (some c) inParam rest

def pathTemplate (path : String) : String :=
  String.ofList (templateChars none false path.toList)

end OpenApiGen
