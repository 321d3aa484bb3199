import Mathlib.Data.List.Induction
import OpenApiGen.Proofs.Route.Assemble

/-!
# The path table is an ordered fold of merges

Documenting routes one after another folds `PathTable.add` over the successful calls in call
order; failing calls change nothing.
-/

namespace OpenApiGen

/-! ## Merging operations -/

namespace Operation

def empty : Operation := {}

theorem merge_assoc (a b c : Operation) : (a.merge b).merge c = a.merge (b.merge c) := by
  simp only [merge, List.append_assoc, mk.injEq, true_and]
  constructor
  · cases c.description <;> rfl
  · cases c.requestBody <;> rfl

@[simp] theorem empty_merge (op : Operation) : empty.merge op = op := by
  cases op with
  | mk description parameters requestBody =>
    cases description <;> cases requestBody <;> rfl

@[simp] theorem merge_empty (op : Operation) : op.merge empty = op := by
  simp [merge, empty]

/-- The operation of calls `ops` made in order: every parameter in order, the last body and the
last description given. -/
def combined (ops : List Operation) : Operation where
  description := (ops.filterMap (·.description)).getLast?
  parameters := ops.flatMap (·.parameters)
  requestBody := (ops.filterMap (·.requestBody)).getLast?

theorem getLast?_filterMap_concat {α β : Type} (f : α → Option β) (xs : List α) (a : α) :
    ((xs ++ [a]).filterMap f).getLast? = (f a).orElse (fun _ => (xs.filterMap f).getLast?) := by
  cases h : f a <;> simp [List.filterMap_append, h]

theorem foldl_merge (ops : List Operation) (start : Operation) :
    ops.foldl merge start =
      { description := (combined ops).description.orElse (fun _ => start.description)
        parameters := start.parameters ++ (combined ops).parameters
        requestBody := (combined ops).requestBody.orElse (fun _ => start.requestBody) } := by
  induction ops using List.reverseRecOn with
  | nil => simp [combined]
  | append_singleton ops op ih =>
    rw [List.foldl_concat, ih]
    simp only [merge, combined, List.flatMap_append, List.flatMap_singleton, List.append_assoc,
      getLast?_filterMap_concat]
    congr 1
    · cases op.description <;> rfl
    · cases op.requestBody <;> rfl

theorem foldl_merge_empty (ops : List Operation) : ops.foldl merge empty = combined ops := by
  rw [foldl_merge]
  cases h : combined ops
  simp [empty]

end Operation

/-! ## One merge into the table -/

namespace PathTable

def methods (t : PathTable) (key : String) : List Method := ((t.lookup key).getD []).map Prod.fst

def get? (t : PathTable) (key : String) (m : Method) : Option Operation :=
  (t.lookup key).bind (·.lookup m)

theorem lookup_cons_ne {α β : Type} [BEq α] [LawfulBEq α] {a k : α} {b : β} {es : List (α × β)}
    (h : a ≠ k) : ((k, b) :: es).lookup a = es.lookup a := by
  simp [List.lookup_cons, beq_eq_false_iff_ne.2 h]

theorem addMethod_lookup (ms : List (Method × Operation)) (m m' : Method) (op : Operation) :
    (addMethod ms m op).lookup m' =
      if m' = m then some (((ms.lookup m).getD Operation.empty).merge op) else ms.lookup m' := by
  induction ms with
  | nil =>
    by_cases h : m' = m
    · subst h; simp [addMethod]
    · simp [addMethod, lookup_cons_ne h, h]
  | cons entry rest ih =>
    obtain ⟨k, o⟩ := entry
    by_cases here : k = m
    · subst here
      by_cases h : m' = k
      · subst h; simp [addMethod]
      · simp [addMethod, lookup_cons_ne h, h]
    · simp only [addMethod, beq_iff_eq, here, if_false, lookup_cons_ne (Ne.symm here)]
      by_cases h : m' = k
      · subst h; simp [here]
      · rw [lookup_cons_ne h, lookup_cons_ne h, ih]

theorem addMethod_methods (ms : List (Method × Operation)) (m : Method) (op : Operation) :
    (addMethod ms m op).map Prod.fst =
      if m ∈ ms.map Prod.fst then ms.map Prod.fst else ms.map Prod.fst ++ [m] := by
  induction ms with
  | nil => simp [addMethod]
  | cons entry rest ih =>
    obtain ⟨k, o⟩ := entry
    by_cases here : k = m
    · subst here; simp [addMethod]
    · simp only [addMethod, beq_iff_eq, here, if_false, List.map_cons, ih, List.mem_cons]
      split <;> simp_all [Ne.symm here]

theorem add_lookup (t : PathTable) (key k : String) (m : Method) (op : Operation) :
    (t.add key m op).lookup k =
      if k = key then some (addMethod ((t.lookup key).getD []) m op) else t.lookup k := by
  induction t with
  | nil =>
    by_cases h : k = key
    · subst h; simp [add, addMethod]
    · simp [add, lookup_cons_ne h, h]
  | cons entry rest ih =>
    obtain ⟨k', ms⟩ := entry
    by_cases here : k' = key
    · subst here
      by_cases h : k = k'
      · subst h; simp [add]
      · simp [add, lookup_cons_ne h, h]
    · simp only [add, beq_iff_eq, here, if_false, lookup_cons_ne (Ne.symm here)]
      by_cases h : k = k'
      · subst h; simp [here]
      · rw [lookup_cons_ne h, lookup_cons_ne h, ih]

theorem add_paths (t : PathTable) (key : String) (m : Method) (op : Operation) :
    (t.add key m op).map Prod.fst =
      if key ∈ t.map Prod.fst then t.map Prod.fst else t.map Prod.fst ++ [key] := by
  induction t with
  | nil => simp [add]
  | cons entry rest ih =>
    obtain ⟨k, ms⟩ := entry
    by_cases here : k = key
    · subst here; simp [add]
    · simp only [add, beq_iff_eq, here, if_false, List.map_cons, ih, List.mem_cons]
      split <;> simp_all [Ne.symm here]

theorem add_get? (t : PathTable) (key k : String) (m m' : Method) (op : Operation) :
    (t.add key m op).get? k m' =
      if k = key ∧ m' = m then some (((t.get? key m).getD Operation.empty).merge op)
      else t.get? k m' := by
  unfold get?
  rw [add_lookup]
  by_cases hk : k = key
  · subst hk
    simp only [if_true, Option.bind_some, addMethod_lookup, true_and]
    by_cases hm : m' = m
    · cases t.lookup k <;> simp [hm]
    · cases t.lookup k <;> simp [hm]
  · simp [hk]

theorem add_methods (t : PathTable) (key k : String) (m : Method) (op : Operation) :
    (t.add key m op).methods k =
      if k = key ∧ m ∉ t.methods key then t.methods key ++ [m] else t.methods k := by
  unfold methods
  rw [add_lookup]
  by_cases hk : k = key
  · subst hk
    simp only [if_true, Option.getD_some, addMethod_methods, true_and]
    split <;> simp_all
  · simp [hk]

end PathTable

/-! ## Runs of calls -/

/-- One call documenting a route: the definitions its references stand for, its method, router
path, inputs and description. -/
structure RouteCall where
  bodies : Bodies
  method : Method
  path : String
  inputs : RouteInputs
  description : Option String

namespace PathTable

/-- Make the calls in order; a call that fails leaves the table and the registry as they were. -/
def recordAll : List RouteCall → PathTable → Registry → PathTable × Registry
  | [], t, r => (t, r)
  | c :: rest, t, r =>
    match t.record r c.bodies c.method c.path c.inputs c.description with
    | .ok (t', r') => recordAll rest t' r'
    | .error _ => recordAll rest t r

/-- The entries the successful calls merge in, in call order: path template, method and
operation. -/
def recorded : List RouteCall → Registry → List (String × Method × Operation)
  | [], _ => []
  | c :: rest, r =>
    match assemble c.bodies c.inputs c.description r with
    | .ok (op, r') => (pathTemplate c.path, c.method, op) :: recorded rest r'
    | .error _ => recorded rest r

def addAll (t : PathTable) (es : List (String × Method × Operation)) : PathTable :=
  es.foldl (fun t e => t.add e.1 e.2.1 e.2.2) t

@[simp] theorem addAll_nil (t : PathTable) : t.addAll [] = t := rfl

@[simp] theorem addAll_concat (t : PathTable) (es : List (String × Method × Operation))
    (e : String × Method × Operation) : t.addAll (es ++ [e]) = (t.addAll es).add e.1 e.2.1 e.2.2 :=
  List.foldl_concat _ _ _ _

theorem record_eq (t : PathTable) (r : Registry) (b : Bodies) (m : Method) (path : String)
    (inputs : RouteInputs) (description : Option String) :
    t.record r b m path inputs description =
      (assemble b inputs description r).map (fun p => (t.add (pathTemplate path) m p.1, p.2)) := by
  unfold record
  cases assemble b inputs description r with
  | error e => rfl
  | ok p => rfl

theorem recordAll_eq_addAll (calls : List RouteCall) (t : PathTable) (r : Registry) :
    (recordAll calls t r).1 = t.addAll (recorded calls r) := by
  induction calls generalizing t r with
  | nil => rfl
  | cons c rest ih =>
    simp only [recordAll, recorded, record_eq]
    cases assemble c.bodies c.inputs c.description r with
    | error e => exact ih t r
    | ok p => exact ih _ _

/-! ## Reading the fold back -/

variable (es : List (String × Method × Operation))

def entriesAt (key : String) (m : Method) : List Operation :=
  (es.filter (fun e => e.1 == key && e.2.1 == m)).map (·.2.2)

theorem addAll_get? (key : String) (m : Method) :
    (addAll [] es).get? key m =
      if entriesAt es key m = [] then none else some (Operation.combined (entriesAt es key m)) := by
  rw [← Operation.foldl_merge_empty]
  induction es using List.reverseRecOn with
  | nil => simp [entriesAt, get?]
  | append_singleton es e ih =>
    obtain ⟨k, m', op⟩ := e
    rw [addAll_concat, add_get?, ih]
    by_cases here : key = k ∧ m = m'
    · obtain ⟨rfl, rfl⟩ := here
      have entries : entriesAt (es ++ [(key, m, op)]) key m = entriesAt es key m ++ [op] := by
        simp [entriesAt, List.filter_append]
      -- with no earlier entry the empty operation stands in, and it is the empty fold
      have earlier : (if entriesAt es key m = [] then none
          else some ((entriesAt es key m).foldl Operation.merge Operation.empty)).getD
            Operation.empty = (entriesAt es key m).foldl Operation.merge Operation.empty := by
        split <;> simp_all
      rw [ih, earlier]
      simp [entries]
    · have entries : entriesAt (es ++ [(k, m', op)]) key m = entriesAt es key m := by
        have other : ¬(k = key ∧ m' = m) := fun ⟨a, b⟩ => here ⟨a.symm, b.symm⟩
        simp_all [entriesAt, List.filter_append]
      simp [here, entries]

theorem addAll_paths :
    (addAll [] es).map Prod.fst = (es.map (·.1)).eraseDups := by
  induction es using List.reverseRecOn with
  | nil => rfl
  | append_singleton es e ih =>
    rw [addAll_concat, add_paths, ih, List.map_append, List.map_singleton, eraseDups_concat]
    simp only [List.mem_eraseDups]

theorem addAll_methods (key : String) :
    (addAll [] es).methods key =
      ((es.filter (·.1 == key)).map (·.2.1)).eraseDups := by
  induction es using List.reverseRecOn with
  | nil => rfl
  | append_singleton es e ih =>
    obtain ⟨k, m, op⟩ := e
    rw [addAll_concat, add_methods]
    by_cases hk : key = k
    · subst hk
      simp only [true_and, List.filter_append, ih, beq_self_eq_true, List.filter_cons_of_pos,
        List.filter_nil, List.map_append, List.map_cons, List.map_nil, eraseDups_concat,
        List.mem_eraseDups]
      split <;> simp_all
    · have skip : (k == key) = false := by simpa using Ne.symm hk
      simp [hk, ih, List.filter_append, skip]

end PathTable

open PathTable in
/-- Documenting routes one after another: the table is the ordered fold of merges over the calls
that succeed (the failing ones contribute nothing); its paths, and the methods under each path,
are in the order of their first successful call; the operation under a path and method has the
parameters of every successful call there, in call order, the last request body and the last
description given, and none without such a call; and merging is associative with the empty
operation as unit. -/
theorem recordAll_merges_in_call_order (calls : List RouteCall) (r : Registry) :
    let done := recorded calls r
    let t := (recordAll calls [] r).1
    t = done.foldl (fun (t : PathTable) e => t.add e.1 e.2.1 e.2.2) [] ∧
    t.map Prod.fst = (done.map (·.1)).eraseDups ∧
    (∀ key, t.methods key = ((done.filter (·.1 == key)).map (·.2.1)).eraseDups) ∧
    (∀ key m, t.get? key m =
      if entriesAt done key m = [] then none
      else some { description := ((entriesAt done key m).filterMap (·.description)).getLast?
                  parameters := (entriesAt done key m).flatMap (·.parameters)
                  requestBody := ((entriesAt done key m).filterMap (·.requestBody)).getLast? }) ∧
    (∀ a b c : Operation, (a.merge b).merge c = a.merge (b.merge c)) ∧
    (∀ op : Operation, Operation.empty.merge op = op ∧ op.merge Operation.empty = op) := by
  intro done t
  have folded : t = addAll [] done := recordAll_eq_addAll calls [] r
  refine ⟨folded, ?_, ?_, ?_, Operation.merge_assoc, fun op => ⟨by simp, by simp⟩⟩
  · rw [folded, addAll_paths]
  · intro key
    rw [folded, addAll_methods]
  · intro key m
    rw [folded, addAll_get?]
    rfl

end OpenApiGen
