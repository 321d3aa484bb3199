import OpenApiGen.Jq.Filter
/-!
Resolving the names of a term: from terms to filters.
-/

namespace OpenApiGen.Jq

/-- The kind of a name that resolves to nothing. -/
inductive Undefined where
  | filter (arity : Nat)
  | var
  | label
  deriving Inhabited

def Undefined.debug : Undefined → String
  | .filter n => "Filter(" ++ toString n ++ ")"
  | .var => "Var"
  | .label => "Label"

/-- What a name in scope stands for. Variables, filter parameters and labels occupy a place in
the run-time environment; definitions do not. -/
inductive ScopeEntry where
  | var (name : String)
  | param (name : String)
  | label (name : String)
  | defn (name : String) (params : List String) (index : Nat)
  deriving Inhabited

def ScopeEntry.isSlot : ScopeEntry → Bool
  | .defn .. => false
  | _ => true

def builtinNames : List (String × Nat) :=
  [("empty", 0), ("error", 0), ("error", 1), ("length", 0), ("utf8bytelength", 0), ("type", 0),
    ("keys_unsorted", 0), ("has", 1), ("contains", 1), ("tojson", 0), ("fromjson", 0),
    ("tonumber", 0), ("tostring", 0), ("explode", 0), ("implode", 0), ("ltrimstr", 1),
    ("rtrimstr", 1), ("startswith", 1), ("endswith", 1), ("ascii_downcase", 0),
    ("ascii_upcase", 0), ("trim", 0), ("ltrim", 0), ("rtrim", 0), ("split", 1), ("join", 1),
    ("indices", 1), ("reverse", 0), ("sort", 0), ("floor", 0), ("ceil", 0), ("round", 0),
    ("range", 3), ("getpath", 1), ("input", 0), ("inputs", 0), ("debug", 0), ("stderr", 0),
    ("now", 0), ("mktime", 0), ("gmtime", 0), ("localtime", 0), ("strftime", 1),
    ("strflocaltime", 1), ("strptime", 1), ("todateiso8601", 0), ("fromdateiso8601", 0),
    ("@text", 0), ("@json", 0), ("@html", 0), ("@uri", 0), ("@urid", 0), ("@csv", 0),
    ("@tsv", 0), ("@sh", 0), ("@base64", 0), ("@base64d", 0), ("test", 2), ("match", 2),
    ("capture", 2), ("scan", 2), ("split", 2), ("sub", 3), ("sort_by", 1), ("group_by", 1),
    ("unique_by", 1), ("min_by", 1), ("max_by", 1), ("last", 1), ("pow", 2), ("atan2", 2),
    ("fmod", 2), ("ldexp", 2), ("scalb", 2), ("scalbln", 2), ("drem", 2), ("copysign", 2),
    ("fdim", 2), ("fmax", 2), ("fmin", 2), ("hypot", 2), ("nextafter", 2), ("nexttoward", 2),
    ("remainder", 2), ("fma", 3), ("frexp", 0), ("modf", 0), ("lgamma_r", 0),
    ("significand", 0), ("logb", 0), ("gamma", 0), ("trunc", 0), ("nearbyint", 0),
    ("rint", 0)] ++
  (["acos", "acosh", "asin", "asinh", "atan", "atanh", "cbrt", "cos", "cosh", "erf", "erfc",
    "exp", "exp10", "exp2", "expm1", "fabs", "j0", "j1", "lgamma", "log", "log10", "log1p",
    "log2", "sin", "sinh", "sqrt", "tan", "tanh", "tgamma", "y0", "y1"].map (·, 0))

def takesClosures (name : String) : Bool :=
  ["sort_by", "group_by", "unique_by", "min_by", "max_by", "last", "sub"].contains name

/-- The compiler's state: the definitions compiled so far and the unresolved names met. -/
structure Compiler where
  defs : Array Filter := #[]
  undefined : List (String × Undefined) := []

abbrev Compile := StateM Compiler

namespace Compile

def fail (name : String) (kind : Undefined) : Compile Filter := do
  modify fun s => { s with undefined := s.undefined ++ [(name, kind)] }
  return .id

def findVar (scope : List ScopeEntry) (name : String) : Option Nat :=
  go scope 0
where
  /-- Walks outwards counting places. -/
  go : List ScopeEntry → Nat → Option Nat
    | [], _ => none
    | .var x :: rest, n => if x == name then some n else go rest (n + 1)
    | e :: rest, n => go rest (if e.isSlot then n + 1 else n)

def findLabel (scope : List ScopeEntry) (name : String) : Option Nat :=
  go scope 0
where
  /-- Walks outwards counting places. -/
  go : List ScopeEntry → Nat → Option Nat
    | [], _ => none
    | .label x :: rest, n => if x == name then some n else go rest (n + 1)
    | e :: rest, n => go rest (if e.isSlot then n + 1 else n)

/-- What a call resolves to in scope. -/
inductive Target where
  | param (index : Nat)
  | defn (index skip : Nat) (params : List String)

def findCall (scope : List ScopeEntry) (name : String) (arity : Nat) : Option Target :=
  go scope 0
where
  /-- Walks outwards counting places. -/
  go : List ScopeEntry → Nat → Option Target
    | [], _ => none
    | .param x :: rest, n =>
      if x == name && arity == 0 then some (.param n) else go rest (n + 1)
    | .defn x ps i :: rest, n =>
      if x == name && ps.length == arity then some (.defn i n ps) else go rest n
    | _ :: rest, n => go rest (n + 1)

def patternVars : Pattern → List String
  | .var x => [x]
  | .arr items => items.attach.flatMap fun ⟨p, _⟩ => patternVars p
  | .obj entries => entries.attach.flatMap fun ⟨(k, p), h⟩ =>
    (match k with
      | .var x => [x]
      | _ => []) ++
    (match p, h with
      | some p, h =>
        have := List.sizeOf_lt_of_mem h
        patternVars p
      | none, _ => [])
termination_by p => sizeOf p
decreasing_by
  all_goals simp_wf
  all_goals first
    | (have h := List.sizeOf_lt_of_mem ‹_ ∈ items›; omega)
    | (simp at this; omega)

def pushVars (scope : List ScopeEntry) (xs : List String) : List ScopeEntry :=
  xs.foldl (fun s x => .var x :: s) scope

def sumAll : List Filter → Filter
  | [] => .lit (.str "")
  | f :: rest => rest.foldl (fun acc g => .math acc .add g) f

mutual
def term : Nat → List ScopeEntry → Term → Compile Filter
  | 0, _, _ => pure .id
  | fuel + 1, scope, t =>
    match t with
    | .id => pure .id
    | .recurse => call fuel scope "recurse" []
    | .num text => pure (.lit (Value.ofNumberText text))
    | .str fmt parts => do
      let format ← match fmt with
        | some f => call fuel scope f []
        | none => pure .toText
      let pieces ← stringParts fuel scope format parts
      return match pieces with
        | [] => .lit (.str "")
        | _ => sumAll pieces
    | .arr none => pure (.lit (.arr []))
    | .arr (some body) => .arr <$> term fuel scope body
    | .obj [] => pure (.lit (.obj []))
    | .obj entries => do
      let singles ← objectEntries fuel scope entries
      return sumAll singles
    | .neg body => .neg <$> term fuel scope body
    | .pipe l none r => do
      let l ← term fuel scope l
      return .pipe l (← term fuel scope r)
    | .pipe l (some pat) r => do
      let l ← term fuel scope l
      let p ← pattern fuel scope pat
      let r ← term fuel (pushVars scope (patternVars pat)) r
      return .bind l p r
    | .binop l op r => do
      let l ← term fuel scope l
      let r ← term fuel scope r
      return match op with
        | .comma => .comma l r
        | .alt => .alt l r
        | .or_ => .logic l true r
        | .and_ => .logic l false r
        | .math m => .math l m r
        | .cmp c => .cmp l c r
        | .assign => .assign l r
        | .update => .update l r
        | .updateMath m => .updateMath l m r
        | .updateAlt => .updateAlt l r
    | .label x body => .label <$> term fuel (.label x :: scope) body
    | .breakTo x =>
      match findLabel scope x with
      | some i => pure (.breakTo i)
      | none => fail x .label
    | .fold name source pat args =>
      match name, args with
      | "reduce", [init, upd] => do
        let s ← term fuel scope source
        let i ← term fuel scope init
        let p ← pattern fuel scope pat
        let u ← term fuel (pushVars scope (patternVars pat)) upd
        return .reduce s p i u
      | "foreach", [init, upd] => do
        let s ← term fuel scope source
        let i ← term fuel scope init
        let p ← pattern fuel scope pat
        let u ← term fuel (pushVars scope (patternVars pat)) upd
        return .foreach s p i u none
      | "foreach", [init, upd, extract] => do
        let s ← term fuel scope source
        let i ← term fuel scope init
        let p ← pattern fuel scope pat
        let inner := pushVars scope (patternVars pat)
        let u ← term fuel inner upd
        let e ← term fuel inner extract
        return .foreach s p i u (some e)
      | _, _ => fail name (.filter args.length)
    | .tryCatch body handler => do
      let b ← term fuel scope body
      let h ← match handler with
        | some h => term fuel scope h
        | none => pure (.native "empty" [])
      return .tryCatch b h
    | .ite branches otherwise => do
      let compiled ← conditions fuel scope branches
      let no ← match otherwise with
        | some e => term fuel scope e
        | none => pure .id
      return compiled.foldr (fun (c, y) acc => .ite c y acc) no
    | .defs ds body => do
      let scope ← definitions fuel scope ds
      term fuel scope body
    | .call name args => call fuel scope name args
    | .var x =>
      match findVar scope x with
      | some i => pure (.var i)
      | none => fail x .var
    | .path head parts => do
      let h ← term fuel scope head
      return .path h (← steps fuel scope parts)

/-- Compiles the parts of a string: literal text as it is, interpolations through `format`. -/
def stringParts : Nat → List ScopeEntry → Filter → List StrPart → Compile (List Filter)
  | 0, _, _, _ => pure []
  | _ + 1, _, _, [] => pure []
  | fuel + 1, scope, format, p :: rest => do
    let f ← match p with
      | .text s => pure (Filter.lit (.str s))
      | .interp t => do pure (Filter.pipe (← term fuel scope t) format)
    return f :: (← stringParts fuel scope format rest)

/-- Compiles the entries of an object construction, each to a one-field object. -/
def objectEntries : Nat → List ScopeEntry → List (Term × Option Term) → Compile (List Filter)
  | 0, _, _ => pure []
  | _ + 1, _, [] => pure []
  | fuel + 1, scope, (k, v) :: rest => do
    let f ← match k, v with
      | .var x, none => do
        let value ← term fuel scope (.var x)
        pure (Filter.objSingle (.lit (.str (String.ofList (x.toList.drop 1)))) value)
      | k, none => do
        let key ← term fuel scope k
        pure (Filter.objSingle key (.path .id [(.index key, false)]))
      | k, some v => do
        let key ← term fuel scope k
        pure (Filter.objSingle key (← term fuel scope v))
    return f :: (← objectEntries fuel scope rest)

def conditions : Nat → List ScopeEntry → List (Term × Term) → Compile (List (Filter × Filter))
  | 0, _, _ => pure []
  | _ + 1, _, [] => pure []
  | fuel + 1, scope, (c, y) :: rest => do
    let c ← term fuel scope c
    let y ← term fuel scope y
    return (c, y) :: (← conditions fuel scope rest)

def definitions : Nat → List ScopeEntry → List Def → Compile (List ScopeEntry)
  | 0, scope, _ => pure scope
  | _ + 1, scope, [] => pure scope
  | fuel + 1, scope, .mk name params body :: rest => do
    let index := (← get).defs.size
    modify fun s => { s with defs := s.defs.push .id }
    let scope := .defn name params index :: scope
    let inner := params.foldl (fun s p =>
      if p.startsWith "$" then .var p :: s else .param p :: s) scope
    let b ← term fuel inner body
    modify fun s => { s with defs := s.defs.set! index b }
    definitions fuel scope rest

/-- Compiles a call: to a parameter, a definition, or a built-in filter. -/
def call : Nat → List ScopeEntry → String → List Term → Compile Filter
  | 0, _, _, _ => pure .id
  | fuel + 1, scope, name, args =>
    match findCall scope name args.length with
    | some (.param i) => pure (.callParam i)
    | some (.defn i skip params) => do
      let compiled ← arguments fuel scope (params.zip args)
      return .callDef i skip compiled
    | none =>
      if name == "null" && args.isEmpty then pure (.lit .null)
      else if name == "true" && args.isEmpty then pure (.lit (.bool true))
      else if name == "false" && args.isEmpty then pure (.lit (.bool false))
      else if builtinNames.contains (name, args.length) then do
        let compiled ← callArgs fuel scope args
        return .native name compiled
      else fail name (.filter args.length)

/-- Compiles the arguments of a call to a definition by the kinds of its parameters. -/
def arguments : Nat → List ScopeEntry → List (String × Term) → Compile (List Arg)
  | 0, _, _ => pure []
  | _ + 1, _, [] => pure []
  | fuel + 1, scope, (p, a) :: rest => do
    let f ← term fuel scope a
    let arg := if p.startsWith "$" then Arg.value f else Arg.closure f
    return arg :: (← arguments fuel scope rest)

def callArgs : Nat → List ScopeEntry → List Term → Compile (List Filter)
  | 0, _, _ => pure []
  | _ + 1, _, [] => pure []
  | fuel + 1, scope, a :: rest => do
    let f ← term fuel scope a
    return f :: (← callArgs fuel scope rest)

def steps : Nat → List ScopeEntry → List (PathPart × Bool) → Compile (List (Step × Bool))
  | 0, _, _ => pure []
  | _ + 1, _, [] => pure []
  | fuel + 1, scope, (p, opt) :: rest => do
    let s ← match p with
      | .index k => do pure (Step.index (← term fuel scope k))
      | .slice lo hi => do
        let lo ← match lo with
          | some t => some <$> term fuel scope t
          | none => pure none
        let hi ← match hi with
          | some t => some <$> term fuel scope t
          | none => pure none
        pure (Step.slice lo hi)
      | .iterate => pure Step.iterate
    return (s, opt) :: (← steps fuel scope rest)

def pattern : Nat → List ScopeEntry → Pattern → Compile Pat
  | 0, _, _ => pure .var
  | fuel + 1, scope, p =>
    match p with
    | .var _ => pure .var
    | .arr items => .arr <$> patternItems fuel scope items
    | .obj entries => .obj <$> patternEntries fuel scope entries

def patternItems : Nat → List ScopeEntry → List Pattern → Compile (List Pat)
  | 0, _, _ => pure []
  | _ + 1, _, [] => pure []
  | fuel + 1, scope, p :: rest => do
    let c ← pattern fuel scope p
    return c :: (← patternItems fuel (pushVars scope (patternVars p)) rest)

/-- Compiles the entries of an object pattern: a key and the patterns bound to its value. -/
def patternEntries : Nat → List ScopeEntry → List (Term × Option Pattern) →
    Compile (List (Filter × List Pat))
  | 0, _, _ => pure []
  | _ + 1, _, [] => pure []
  | fuel + 1, scope, (k, p) :: rest => do
    let (key, pats, scope) ← match k with
      | .var x => do
        let key := Filter.lit (.str (String.ofList (x.toList.drop 1)))
        let scope := .var x :: scope
        match p with
        | some p => do
          let c ← pattern fuel scope p
          pure (key, [Pat.var, c], pushVars scope (patternVars p))
        | none => pure (key, [Pat.var], scope)
      | k => do
        let key ← term fuel scope k
        match p with
        | some p => do
          let c ← pattern fuel scope p
          pure (key, [c], pushVars scope (patternVars p))
        | none => pure (key, [], scope)
    return (key, pats) :: (← patternEntries fuel scope rest)
end

end Compile

/-- Compiles the definitions of a library: the scope they make and the compiler's state. -/
def compileLibrary (defs : List Def) : List ScopeEntry × Compiler :=
  (Compile.definitions 100000 [] defs).run {}

/-- Compiles a program in the scope of a library: the program, or the unresolved names. -/
def compileProgram (library : List ScopeEntry × Compiler) (body : Term) :
    Except (List (String × Undefined)) Program :=
  let (scope, st) := library
  let (main, st) := (Compile.term 100000 scope body).run { st with undefined := [] }
  if st.undefined.isEmpty then .ok { defs := st.defs, main } else .error st.undefined

end OpenApiGen.Jq
