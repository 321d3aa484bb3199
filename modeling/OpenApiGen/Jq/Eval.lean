import OpenApiGen.Jq.Builtin
import OpenApiGen.Jq.Filter
/-!
Running filters: the outputs of a filter on an input, and updates of the places a filter
reaches.
-/

namespace OpenApiGen.Jq

/-- A path step with its keys evaluated. -/
inductive PathKey where
  | index (key : Value)
  | slice (lo hi : Option Value)
  | iterate
  deriving Inhabited

namespace PathKey

def reach : PathKey → Value → Outputs
  | .index k, v => Outputs.ofResult (v.index k)
  | .slice lo hi, v => Outputs.ofResult (v.slice lo hi)
  | .iterate, v =>
    match v.children with
    | .ok xs => LazySeq.ofList (xs.map .ok)
    | .error e => Outputs.fail e

/-- The values a path reaches; an optional step drops the errors it raises itself. -/
def reachAll : List (PathKey × Bool) → Value → Outputs
  | [], v => Outputs.pure v
  | (k, optional) :: rest, v =>
    let ys := k.reach v
    let ys := if optional then ys.filter (fun o => o matches .ok _) else ys
    Outputs.flatMapOk ys (reachAll rest)

def updateStep (k : PathKey) (optional : Bool) (v : Value)
    (f : Value → Option Output) : Output :=
  match k with
  | .index key => v.updateIndex key optional f
  | .slice lo hi => v.updateSlice lo hi optional f
  | .iterate => v.updateChildren optional f

def updateAll : List (PathKey × Bool) → Value → (Value → Option Output) → Output
  | [], v, _ => .ok v
  | [(k, optional)], v, f => updateStep k optional v f
  | (k, optional) :: rest, v, f => updateStep k optional v fun x => some (updateAll rest x f)

end PathKey

/-- Applies every path of a sequence in turn to a value, stopping at the first exception. -/
def updatePaths : LazySeq (Except Exn (List (PathKey × Bool))) → Value →
    (Value → Option Output) → Output
  | .nil, v, _ => .ok v
  | .cons (.error e) _, _, _ => .error e
  | .cons (.ok keys) rest, v, f =>
    match PathKey.updateAll keys v f with
    | .ok w => updatePaths (rest ()) w f
    | .error e => .error e

/-- Keys of the elements of an array computed by a filter, stopping at the first exception. -/
def keyed (keys : Value → Except Exn (List Value)) : List Value →
    Except Exn (List (List Value × Value))
  | [] => .ok []
  | x :: rest => do
    let k ← keys x
    return (k, x) :: (← keyed keys rest)

def compareKeyLists (a b : List Value) : Ordering := Value.lexOrder Value.compareValues a b

def sortKeyed (xs : List (List Value × Value)) : List (List Value × Value) :=
  xs.mergeSort fun a b => compareKeyLists a.1 b.1 != .gt

def groupKeyed : List (List Value × Value) → List (List Value × List Value)
  | [] => []
  | (k, x) :: rest =>
    match groupKeyed rest with
    | (k', xs) :: groups =>
      if compareKeyLists k k' == .eq then (k, x :: xs) :: groups else (k, [x]) :: (k', xs) :: groups
    | [] => [(k, [x])]

/-- The element whose key wins against every later one: the first least for `min_by`, the last
greatest for `max_by`. -/
def pickKeyed (replaceOnTie : Bool) (wins : Ordering) :
    List (List Value × Value) → Option (List Value × Value)
  | [] => none
  | first :: rest =>
    some (rest.foldl (fun best cand =>
      let o := compareKeyLists cand.1 best.1
      if o == wins || (replaceOnTie && o == .eq) then cand else best) first)

/-- Applies a built-in that takes a filter, given as the keys it computes for a value. -/
def byKeys (name : String) (input : Value) (keys : Value → Except Exn (List Value)) : Output := do
  let xs ← match input with
    | .arr xs => pure xs
    | v => throw (.error (JqError.typeMismatch v "array"))
  let ks ← keyed keys xs
  match name with
  | "sort_by" => return .arr ((sortKeyed ks).map (·.2))
  | "group_by" => return .arr ((groupKeyed (sortKeyed ks)).map fun (_, g) => .arr g)
  | "unique_by" => return .arr ((groupKeyed (sortKeyed ks)).filterMap fun (_, g) => g.head?)
  | "min_by" => return ((pickKeyed false .lt ks).map (·.2)).getD .null
  | _ => return ((pickKeyed true .gt ks).map (·.2)).getD .null

namespace Filter

variable (defs : Array Filter)

mutual
def eval : Nat → List Binding → Filter → Value → Outputs
  | 0, _, _, _ => Outputs.raise .exhausted
  | fuel + 1, env, f, v =>
    match f with
    | .id => Outputs.pure v
    | .lit x => Outputs.pure x
    | .toText => Outputs.pure (.str (Format.text v))
    | .arr body =>
      match Outputs.collect (eval fuel env body v) with
      | .ok xs => Outputs.pure (.arr xs)
      | .error e => Outputs.raise e
    | .objSingle k x =>
      Outputs.product (eval fuel env k v) (fun _ => eval fuel env x v) fun kv xv =>
        match kv with
        | .str s => .ok (.obj [(s, xv)])
        | kv => .error (.error (JqError.typeMismatch kv "string"))
    | .neg body => Outputs.mapOk (eval fuel env body v) Value.negate
    | .pipe l r => Outputs.flatMapOk (eval fuel env l v) (eval fuel env r)
    | .bind src pat body =>
      Outputs.flatMapOk (eval fuel env src v) fun x =>
        Outputs.flatMapOk (bindPat fuel env pat x) fun env' => eval fuel env' body v
    | .comma l r => (eval fuel env l v).appendThen fun _ => eval fuel env r v
    | .alt l r => Outputs.orElse (eval fuel env l v) fun _ => eval fuel env r v
    | .ite c yes no =>
      Outputs.flatMapOk (eval fuel env c v) fun b =>
        if b.truthy then eval fuel env yes v else eval fuel env no v
    | .logic l isOr r =>
      Outputs.flatMapOk (eval fuel env l v) fun a =>
        if a.truthy == isOr then Outputs.pure (.bool isOr)
        else Outputs.mapOk (eval fuel env r v) fun b => .ok (.bool b.truthy)
    | .math l op r =>
      Outputs.product (eval fuel env l v) (fun _ => eval fuel env r v) (Value.math op)
    | .cmp l op r =>
      Outputs.product (eval fuel env l v) (fun _ => eval fuel env r v) fun a b => .ok (Value.cmp op a b)
    | .tryCatch body handler => Outputs.catching (eval fuel env body v) (eval fuel env handler)
    | .reduce src pat init upd =>
      Outputs.flatMapOk (eval fuel env init v) fun s =>
        Outputs.foldStates (sourceEnvs fuel env src pat v) (fun env' => eval fuel env' upd) s
    | .foreach src pat init upd extract =>
      Outputs.flatMapOk (eval fuel env init v) fun s =>
        Outputs.scanStates (sourceEnvs fuel env src pat v) (fun env' => eval fuel env' upd)
          (fun env' => match extract with
            | some e => eval fuel env' e
            | none => Outputs.pure) s
    | .path head steps =>
      Outputs.flatMapOk (eval fuel env head v) fun y =>
        Outputs.flatMapOk (pathKeys fuel env steps v) fun keys => PathKey.reachAll keys y
    | .update target body => updateWith fuel env target v (eval fuel env body)
    | .assign target body =>
      Outputs.flatMapOk (eval fuel env body v) fun y => updateWith fuel env target v fun _ => Outputs.pure y
    | .updateMath target op body =>
      Outputs.flatMapOk (eval fuel env body v) fun y =>
        updateWith fuel env target v fun x => .single (Value.math op x y)
    | .updateAlt target body =>
      Outputs.flatMapOk (eval fuel env body v) fun y =>
        updateWith fuel env target v fun x => Outputs.pure (if x.truthy then x else y)
    | .var i =>
      match env[i]? with
      | some (.value x) => Outputs.pure x
      | _ => Outputs.raise (.failure "unbound variable")
    | .label body => Outputs.untilBreak (eval fuel (.label fuel :: env) body v) fuel
    | .breakTo i =>
      match env[i]? with
      | some (.label target) => Outputs.raise (.breakTo target)
      | _ => Outputs.raise (.failure "unbound label")
    | .callDef index skip args =>
      Outputs.flatMapOk (bindArgs fuel env args v) fun bs =>
        eval fuel (bs.reverse ++ env.drop skip) (defs.getD index .id) v
    | .callParam i =>
      match env[i]? with
      | some (.closure body cenv) => eval fuel cenv body v
      | _ => Outputs.raise (.failure "unbound filter")
    | .native name args =>
      match name, args with
      | "last", [g] =>
        match Outputs.collect (eval fuel env g v) with
        | .ok xs =>
          match xs.getLast? with
          | some x => Outputs.pure x
          | none => .nil
        | .error e => Outputs.raise e
      | "sub", [re, repl, flags] =>
        Outputs.flatMapOk (argValues fuel env [re, flags] v) fun xs =>
          match xs with
          | [r, fl] =>
            match (do
              let s ← TextSearch.prepare r fl
              let text ← TextSearch.inputText v
              pure (TextSearch.pieces s text) : Except JqError (List TextSearch.Piece)) with
            | .error e => Outputs.fail e
            | .ok ps =>
              Outputs.foldStates (LazySeq.ofList (ps.map .ok)) (fun p acc =>
                match p with
                | .text t => .single (Value.math .add acc (.str t))
                | .groups caps =>
                  Outputs.flatMapOk (eval fuel env repl caps) fun r => .single (Value.math .add acc r))
                (.str "")
          | _ => Outputs.raise (.failure "arity")
      | "sort_by", [g] | "group_by", [g] | "unique_by", [g] | "min_by", [g] | "max_by", [g] =>
        .single (byKeys name v fun x => Outputs.collect (eval fuel env g x))
      | _, _ =>
        Outputs.flatMapOk (argValues fuel env args v) fun xs => Builtin.apply name v xs

/-- The outputs of updating the places a filter reaches in an input with `g`. -/
def updateWith : Nat → List Binding → Filter → Value → (Value → Outputs) → Outputs
  | 0, _, _, _, _ => Outputs.raise .exhausted
  | fuel + 1, env, f, v, g =>
    match f with
    | .id => g v
    | .path head steps =>
      updateWith fuel env head v fun y =>
        .single (updatePaths (pathKeys fuel env steps v) y fun x => (g x).head?)
    | .pipe l r => updateWith fuel env l v fun x => updateWith fuel env r x g
    | .bind src pat body =>
      Outputs.foldStates (sourceEnvs fuel env src pat v) (fun env' s => updateWith fuel env' body s g) v
    | .comma l r => Outputs.flatMapOk (updateWith fuel env l v g) fun x => updateWith fuel env r x g
    | .ite c yes no =>
      Outputs.foldStates (eval fuel env c v)
        (fun b s => if b.truthy then updateWith fuel env yes s g else updateWith fuel env no s g) v
    | .alt l r =>
      match ((eval fuel env l v).filter Outputs.counts).head? with
      | some _ => updateWith fuel env l v g
      | none => updateWith fuel env r v g
    | .callDef index skip args =>
      Outputs.foldStates (bindArgs fuel env args v)
        (fun bs s => updateWith fuel (bs.reverse ++ env.drop skip) (defs.getD index .id) s g) v
    | .callParam i =>
      match env[i]? with
      | some (.closure body cenv) => updateWith fuel cenv body v g
      | _ => Outputs.raise (.failure "unbound filter")
    | .breakTo i =>
      match env[i]? with
      | some (.label target) => Outputs.raise (.breakTo target)
      | _ => Outputs.raise (.failure "unbound label")
    | .native "empty" [] => Outputs.pure v
    | .native "error" [] => Outputs.fail (.value v)
    | .native "error" [msg] => Outputs.flatMapOk (eval fuel env msg v) fun m => Outputs.fail (.value m)
    | .native "getpath" [p] =>
      Outputs.foldStates (eval fuel env p v) (fun path s =>
        match path with
        | .arr ks =>
          if ks.isEmpty then Outputs.pure s
          else .single (PathKey.updateAll (ks.map fun k => (.index k, false)) s fun x => (g x).head?)
        | path => Outputs.fail (JqError.typeMismatch path "array")) v
    | .tryCatch .. | .label _ | .reduce .. | .foreach .. => Outputs.raise (.failure "not implemented")
    | _ => Outputs.fail (JqError.notAPath v)

/-- The environments a source and a pattern bind, for each output of the source in turn. -/
def sourceEnvs : Nat → List Binding → Filter → Pat → Value → LazySeq (Except Exn (List Binding))
  | 0, _, _, _, _ => .single (.error .exhausted)
  | fuel + 1, env, src, pat, v =>
    Outputs.flatMapOk (eval fuel env src v) fun x => bindPat fuel env pat x

/-- The environments a pattern binds on a value, variables pushed from left to right. -/
def bindPat : Nat → List Binding → Pat → Value → LazySeq (Except Exn (List Binding))
  | 0, _, _, _ => .single (.error .exhausted)
  | fuel + 1, env, p, v =>
    match p with
    | .var => .single (.ok (.value v :: env))
    | .arr items => bindItems fuel env items 0 v
    | .obj entries => bindEntries fuel env entries v

/-- Binds the items of an array pattern to the elements from an index on. -/
def bindItems : Nat → List Binding → List Pat → Nat → Value → LazySeq (Except Exn (List Binding))
  | 0, _, _, _, _ => .single (.error .exhausted)
  | _ + 1, env, [], _, _ => .single (.ok env)
  | fuel + 1, env, p :: rest, i, v =>
    match v.index (.int i) with
    | .error e => .single (.error (.error e))
    | .ok x => Outputs.flatMapOk (bindPat fuel env p x) fun env' => bindItems fuel env' rest (i + 1) v

/-- Binds the entries of an object pattern: each key's field to each of its patterns. -/
def bindEntries : Nat → List Binding → List (Filter × List Pat) → Value →
    LazySeq (Except Exn (List Binding))
  | 0, _, _, _ => .single (.error .exhausted)
  | _ + 1, env, [], _ => .single (.ok env)
  | fuel + 1, env, (key, pats) :: rest, v =>
    Outputs.flatMapOk (eval fuel env key v) fun k =>
      match v.index k with
      | .error e => .single (.error (.error e))
      | .ok x =>
        Outputs.flatMapOk (bindAll fuel env pats x) fun env' => bindEntries fuel env' rest v

def bindAll : Nat → List Binding → List Pat → Value → LazySeq (Except Exn (List Binding))
  | 0, _, _, _ => .single (.error .exhausted)
  | _ + 1, env, [], _ => .single (.ok env)
  | fuel + 1, env, p :: rest, v =>
    Outputs.flatMapOk (bindPat fuel env p v) fun env' => bindAll fuel env' rest v

/-- The bindings of the arguments of a call, in the order of the parameters: a closure for a
filter argument, each output in turn for a value argument, the first outermost. -/
def bindArgs : Nat → List Binding → List Arg → Value → LazySeq (Except Exn (List Binding))
  | 0, _, _, _ => .single (.error .exhausted)
  | _ + 1, _, [], _ => .single (.ok [])
  | fuel + 1, env, a :: rest, v =>
    match a with
    | .closure body => Outputs.mapOk (bindArgs fuel env rest v) fun bs => .ok (.closure body env :: bs)
    | .value body =>
      Outputs.flatMapOk (eval fuel env body v) fun x =>
        Outputs.mapOk (bindArgs fuel env rest v) fun bs => .ok (.value x :: bs)

/-- The values of the arguments of a built-in, each output in turn, the first outermost. -/
def argValues : Nat → List Binding → List Filter → Value → LazySeq (Except Exn (List Value))
  | 0, _, _, _ => .single (.error .exhausted)
  | _ + 1, _, [], _ => .single (.ok [])
  | fuel + 1, env, a :: rest, v =>
    Outputs.flatMapOk (eval fuel env a v) fun x =>
      Outputs.mapOk (argValues fuel env rest v) fun xs => .ok (x :: xs)

/-- The keys of the steps of a path, evaluated on the input, each combination in turn. -/
def pathKeys : Nat → List Binding → List (Step × Bool) → Value →
    LazySeq (Except Exn (List (PathKey × Bool)))
  | 0, _, _, _ => .single (.error .exhausted)
  | _ + 1, _, [], _ => .single (.ok [])
  | fuel + 1, env, (s, optional) :: rest, v =>
    let more (k : PathKey) := Outputs.mapOk (pathKeys fuel env rest v) fun ks => .ok ((k, optional) :: ks)
    match s with
    | .iterate => more .iterate
    | .index key => Outputs.flatMapOk (eval fuel env key v) fun k => more (.index k)
    | .slice lo hi =>
      Outputs.flatMapOk (bound fuel env lo v) fun l =>
        Outputs.flatMapOk (bound fuel env hi v) fun h => more (.slice l h)

def bound : Nat → List Binding → Option Filter → Value → LazySeq (Except Exn (Option Value))
  | 0, _, _, _ => .single (.error .exhausted)
  | _ + 1, _, none, _ => .single (.ok none)
  | fuel + 1, env, some b, v => Outputs.mapOk (eval fuel env b v) fun x => .ok (some x)
end

end Filter

/-- The outputs of a program on an input, with a budget of steps. -/
def Program.outputs (p : Program) (budget : Nat) (input : Value) : Outputs :=
  Filter.eval p.defs budget [] p.main input

end OpenApiGen.Jq
