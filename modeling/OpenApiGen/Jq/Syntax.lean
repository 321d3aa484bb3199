import OpenApiGen.Jq.Arith
/-!
The syntax of jq programs: tokens as the lexer groups them, and terms as the parser builds them.
-/

namespace OpenApiGen.Jq

mutual
inductive Token where
  | word (text : String)
  | var (text : String)
  | format (text : String)
  | number (text : String)
  | symbol (text : String)
  | string (text : String) (parts : List StringPiece)
  | block (text : String) (inner : List Token)
  deriving Inhabited

/-- A piece of a string token: literal text, an escaped character, or an interpolated block. -/
inductive StringPiece where
  | text (s : String)
  | char (c : Char)
  | interp (t : Token)
  deriving Inhabited
end

def Token.text : Token → String
  | .word t | .var t | .format t | .number t | .symbol t | .string t _ | .block t _ => t

/-- The binary operators, in the parser's terms. -/
inductive BinaryOp where
  | comma
  | alt
  | or_
  | and_
  | math (op : MathOp)
  | assign
  | update
  | updateMath (op : MathOp)
  | updateAlt
  | cmp (op : CmpOp)
  deriving Inhabited

mutual
/-- A term of the surface language. -/
inductive Term where
  | id
  | recurse
  | num (text : String)
  | str (format : Option String) (parts : List (StrPart))
  | arr (body : Option Term)
  | obj (entries : List (Term × Option Term))
  | neg (body : Term)
  | pipe (lhs : Term) (binding : Option Pattern) (rhs : Term)
  | binop (lhs : Term) (op : BinaryOp) (rhs : Term)
  | label (name : String) (body : Term)
  | breakTo (name : String)
  | fold (name : String) (source : Term) (pat : Pattern) (args : List Term)
  | tryCatch (body : Term) (handler : Option Term)
  | ite (branches : List (Term × Term)) (otherwise : Option Term)
  | defs (ds : List Def) (body : Term)
  | call (name : String) (args : List Term)
  | var (name : String)
  | path (head : Term) (parts : List (PathPart × Bool))
  deriving Inhabited

/-- A piece of a string term. -/
inductive StrPart where
  | text (s : String)
  | interp (t : Term)
  deriving Inhabited

/-- A step of a path; the flag beside it in `Term.path` marks it optional (`?`). -/
inductive PathPart where
  | index (key : Term)
  | slice (lo hi : Option Term)
  | iterate
  deriving Inhabited

inductive Pattern where
  | var (name : String)
  | arr (items : List Pattern)
  | obj (entries : List (Term × Option Pattern))
  deriving Inhabited

/-- A definition: name, parameters and body. -/
inductive Def where
  | mk (name : String) (params : List String) (body : Term)
  deriving Inhabited
end

/-- A dependency line before a program: the path it names. -/
structure Dependency where
  path : String
  deriving Inhabited

/-- A parsed program: its dependency lines and its body. -/
structure Module where
  deps : List Dependency
  body : Term
  deriving Inhabited

end OpenApiGen.Jq
