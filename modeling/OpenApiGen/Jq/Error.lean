import OpenApiGen.Jq.Value
/-!
Errors raised while a jq filter runs, and the other ways a run can stop short.
-/

namespace OpenApiGen.Jq

inductive JqError where
  | value (v : Value)
  | message (parts : List (String ⊕ Value))
  deriving Inhabited

namespace JqError

def typeMismatch (v : Value) (expected : String) : JqError :=
  .message [.inl "cannot use ", .inr v, .inl " as ", .inl expected]

def arithmetic (l : Value) (op : String) (r : Value) : JqError :=
  .message [.inl "cannot calculate ", .inr l, .inl " ", .inl op, .inl " ", .inr r]

def badIndex (v k : Value) : JqError :=
  .message [.inl "cannot index ", .inr v, .inl " with ", .inr k]

def notAPath (v : Value) : JqError :=
  .message [.inl "invalid path expression with result ", .inr v]

def text (s : String) : JqError := .value (.str s)

def toValue : JqError → Value
  | .value v => v
  | .message ps => .str (String.join (ps.map fun p => match p with
    | .inl s => s
    | .inr v => v.render))

def debug : JqError → String
  | .value v => "Error(Val(" ++ v.debug ++ "))"
  | .message ps =>
    "Error(Str([" ++ ", ".intercalate (ps.map fun p => match p with
      | .inl s => "Str(" ++ Text.debugString s ++ ")"
      | .inr v => "Val(" ++ v.debug ++ ")") ++ "]))"

end JqError

/-- Why a stream stopped short: an error, a `break` to the label with the given identity, a
failure of the machine with its message, or the evaluation budget running out. -/
inductive Exn where
  | error (e : JqError)
  | breakTo (label : Nat)
  | failure (message : String)
  | exhausted
  deriving Inhabited

/-- One output of a filter: a value or the reason it stopped. -/
abbrev Output := Except Exn Value

def Output.fail (e : JqError) : Output := .error (.error e)

end OpenApiGen.Jq
