import OpenApiGen.Jq.Syntax
/-!
Filters: programs with every name resolved.
-/

namespace OpenApiGen.Jq

mutual
inductive Filter where
  | id
  | lit (v : Value)
  | toText
  | arr (body : Filter)
  | objSingle (key value : Filter)
  | neg (body : Filter)
  | pipe (lhs rhs : Filter)
  | bind (source : Filter) (pat : Pat) (body : Filter)
  | comma (lhs rhs : Filter)
  | alt (lhs rhs : Filter)
  | ite (cond yes no : Filter)
  | logic (lhs : Filter) (isOr : Bool) (rhs : Filter)
  | math (lhs : Filter) (op : MathOp) (rhs : Filter)
  | cmp (lhs : Filter) (op : CmpOp) (rhs : Filter)
  | tryCatch (body handler : Filter)
  | reduce (source : Filter) (pat : Pat) (init update : Filter)
  | foreach (source : Filter) (pat : Pat) (init update : Filter) (extract : Option Filter)
  | path (head : Filter) (steps : List (Step × Bool))
  | update (target body : Filter)
  | updateMath (target : Filter) (op : MathOp) (body : Filter)
  | updateAlt (target body : Filter)
  | assign (target body : Filter)
  | var (index : Nat)
  | label (body : Filter)
  | breakTo (index : Nat)
  | callDef (index skip : Nat) (args : List Arg)
  | callParam (index : Nat)
  | native (name : String) (args : List Filter)
  deriving Inhabited

/-- A step of a path. -/
inductive Step where
  | index (key : Filter)
  | slice (lo hi : Option Filter)
  | iterate
  deriving Inhabited

/-- A destructuring pattern; each variable it binds is pushed in order. -/
inductive Pat where
  | var
  | arr (items : List Pat)
  | obj (entries : List (Filter × List Pat))
  deriving Inhabited

/-- An argument of a call to a definition. -/
inductive Arg where
  | closure (body : Filter)
  | value (body : Filter)
  deriving Inhabited
end

/-- What an environment entry holds. -/
inductive Binding where
  | value (v : Value)
  | closure (body : Filter) (env : List Binding)
  | label (id : Nat)
  deriving Inhabited

/-- A compiled program: the table of definitions and the main filter. -/
structure Program where
  defs : Array Filter
  main : Filter
  deriving Inhabited

end OpenApiGen.Jq
