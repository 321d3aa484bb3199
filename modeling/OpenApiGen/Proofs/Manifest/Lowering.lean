import Mathlib.Control.Traversable.Instances
import OpenApiGen.Docs.State

/-!
# What lowering checks

`NodeDoc.defects` lists, in pre-order, the one field each kind reads when it is missing and each
reference to no definition. Lowering a node, a manifest or a route fails exactly with the first of
them.
-/

namespace OpenApiGen

namespace NodeDoc

mutual
def defects (names : List String) : NodeDoc → List Error
  | ⟨kind, fields, element, elements, options, values, value, inner, name⟩ =>
    if (Primitive.ofKind? kind).isSome then []
    else if kind = "object" then
      match fields with
      | some fs => defectsFields names fs
      | none => [.missingField kind "fields"]
    else if kind = "array" then
      match element with
      | some e => defects names e
      | none => [.missingField kind "element"]
    else if kind = "tuple" then
      match elements with
      | some es => defectsList names es
      | none => [.missingField kind "elements"]
    else if kind = "union" then
      match options with
      | some os => defectsList names os
      | none => [.missingField kind "options"]
    else if kind = "enum" then
      match values with
      | some _ => []
      | none => [.missingField kind "values"]
    else if kind = "record" then
      match value with
      | some v => defects names v
      | none => [.missingField kind "value"]
    else if kind = "optional" ∨ kind = "nullable" then
      match inner with
      | some i => defects names i
      | none => [.missingField kind "inner"]
    else if kind = "ref" then
      match name with
      | some n => if n ∈ names then [] else [.unknownDefinition n]
      | none => [.missingField kind "name"]
    else []

def defectsList (names : List String) : List NodeDoc → List Error
  | [] => []
  | d :: rest => defects names d ++ defectsList names rest

def defectsFields (names : List String) : List (String × NodeDoc) → List Error
  | [] => []
  | (_, d) :: rest => defects names d ++ defectsFields names rest
end

end NodeDoc

def RouteDoc.defects (names : List String) (r : RouteDoc) : List Error :=
  [r.params, r.body, r.query].flatMap (fun n => (n.map (NodeDoc.defects names)).getD [])

@[simp] theorem Except.ok_bind {ε α β : Type} (a : α) (f : α → Except ε β) :
    (Except.ok a >>= f) = f a := rfl

@[simp] theorem Except.map_eq_error {ε α β : Type} {f : α → β} {x : Except ε α} {e : ε} :
    f <$> x = .error e ↔ x = .error e := by
  cases x <;> simp [Functor.map, Except.map]

theorem Except.map_eq_ok {ε α β : Type} {f : α → β} {x : Except ε α} {b : β} :
    f <$> x = .ok b ↔ ∃ a, x = .ok a ∧ f a = b := by
  cases x <;> simp [Functor.map, Except.map]

/-! A computation `x` *fails at the head of* a list `l` when it fails exactly with `l`'s first
element; sequencing such computations fails at the head of the concatenation. -/

section FirstFailure

variable {α β : Type} {x : Except Error α} {f : α → Except Error β} {lx ly : List Error}

theorem head_none_of_ok (hx : ∀ e, x = .error e ↔ lx.head? = some e) {a : α} (ok : x = .ok a) :
    lx.head? = none := by
  cases found : lx.head? with
  | none => rfl
  | some e =>
    rw [(hx e).2 found] at ok
    cases ok

theorem ok_of_head_none (hx : ∀ e, x = .error e ↔ lx.head? = some e) (clean : lx.head? = none) :
    ∃ a, x = .ok a := by
  cases applied : x with
  | error e =>
    rw [(hx e).1 applied] at clean
    cases clean
  | ok a => exact ⟨a, rfl⟩

theorem bind_eq_error_iff (hx : ∀ e, x = .error e ↔ lx.head? = some e)
    (hf : ∀ a e, f a = .error e ↔ ly.head? = some e) (e : Error) :
    x >>= f = .error e ↔ (lx ++ ly).head? = some e := by
  rw [List.head?_append]
  cases applied : x with
  | error e' =>
    rw [(hx e').1 applied]
    simp [bind, Except.bind]
  | ok a =>
    rw [head_none_of_ok hx applied, Option.none_or]
    exact hf a e

-- The continuation may fail on its own after the listed checks pass, hence only one direction.
theorem bind_eq_error_of_head (hx : ∀ e, x = .error e ↔ lx.head? = some e)
    (hf : ∀ a e, ly.head? = some e → f a = .error e) {e : Error} (first : (lx ++ ly).head? = some e) :
    x >>= f = .error e := by
  rw [List.head?_append] at first
  cases applied : x with
  | error e' =>
    rw [(hx e').1 applied] at first
    cases first
    rfl
  | ok a =>
    rw [head_none_of_ok hx applied, Option.none_or] at first
    exact hf a e first

theorem mapM_eq_error_iff (g : α → List Error) {f : α → Except Error β}
    (same : ∀ a e, f a = .error e ↔ (g a).head? = some e) (xs : List α) (e : Error) :
    xs.mapM f = .error e ↔ (xs.flatMap g).head? = some e := by
  induction xs generalizing e with
  | nil => simp [pure, Except.pure]
  | cons a rest ih =>
    rw [List.mapM_cons, List.flatMap_cons]
    exact bind_eq_error_iff (same a) (fun _ e => by rw [bind_pure_comp, Except.map_eq_error]; exact ih e) e

end FirstFailure

theorem find?_isSome_iff (ids : DefinitionIds) (n : String) :
    (ids.find? (fun p => p.1 == n)).isSome ↔ n ∈ ids.map Prod.fst := by
  simp [List.find?_isSome]

theorem lowering_eq_error_iff (ids : DefinitionIds) :
    (∀ d : NodeDoc, ∀ e, lowerNode ids d = .error e ↔ (d.defects (ids.map Prod.fst)).head? = some e) ∧
    (∀ ds, ∀ e, lowerList ids ds = .error e ↔
      (NodeDoc.defectsList (ids.map Prod.fst) ds).head? = some e) ∧
    (∀ fs, ∀ e, lowerFields ids fs = .error e ↔
      (NodeDoc.defectsFields (ids.map Prod.fst) fs).head? = some e) := by
  refine lowerNode.mutual_induct ids
    (fun d => ∀ e, lowerNode ids d = .error e ↔ (d.defects (ids.map Prod.fst)).head? = some e)
    (fun ds => ∀ e, lowerList ids ds = .error e ↔
      (NodeDoc.defectsList (ids.map Prod.fst) ds).head? = some e)
    (fun fs => ∀ e, lowerFields ids fs = .error e ↔
      (NodeDoc.defectsFields (ids.map Prod.fst) fs).head? = some e)
    ?primitive ?object ?objectMissing ?array ?arrayMissing ?tuple ?tupleMissing ?union ?unionMissing
    ?enum ?enumMissing ?record ?recordMissing ?optional ?optionalMissing ?nullable ?nullableMissing
    ?ref ?refUnknown ?refMissing ?other ?fieldsNil ?fieldsCons ?listNil ?listCons
  case fieldsNil => simp [lowerFields, NodeDoc.defectsFields]
  case listNil => simp [lowerList, NodeDoc.defectsList]
  case fieldsCons =>
    intro k d rest head tail e
    rw [lowerFields, NodeDoc.defectsFields]
    exact bind_eq_error_iff head (fun _ e => by rw [bind_pure_comp, Except.map_eq_error]; exact tail e) e
  case listCons =>
    intro d rest head tail e
    rw [lowerList, NodeDoc.defectsList]
    exact bind_eq_error_iff head (fun _ e => by rw [bind_pure_comp, Except.map_eq_error]; exact tail e) e
  -- The equation lemmas of `lowerNode` are split over every optional field, so each case unfolds
  -- the whole definition and lets the hypotheses of the case pick the branch.
  case ref =>
    intro kind fields element elements options values value inner notPrimitive _ _ _ _ _ _ _ _ isRef n
      found i looked e
    have known : n ∈ ids.map Prod.fst := (find?_isSome_iff ids n).1 (by simp [looked])
    rw [lowerNode.eq_def, NodeDoc.defects.eq_def]
    simp_all
  case refUnknown =>
    intro kind fields element elements options values value inner notPrimitive _ _ _ _ _ _ _ _ isRef n
      looked e
    have unknown : n ∉ ids.map Prod.fst := fun known => by
      simpa [looked] using (find?_isSome_iff ids n).2 known
    rw [lowerNode.eq_def, NodeDoc.defects.eq_def]
    simp only [looked]
    simp_all
  all_goals
    intros
    rw [lowerNode.eq_def, NodeDoc.defects.eq_def]
    simp_all [missing]

theorem lowerNode_eq_error_iff {ids : DefinitionIds} (d : NodeDoc) (e : Error) :
    lowerNode ids d = .error e ↔ (d.defects (ids.map Prod.fst)).head? = some e :=
  (lowering_eq_error_iff ids).1 d e

theorem numbered_names (m : Manifest) (first : DefinitionId) :
    (m.definitions.zipIdx.map (fun x => (x.1.1, first + x.2))).map Prod.fst =
      m.definitions.map Prod.fst := by
  rw [List.map_map]
  conv_rhs => rw [← List.zipIdx_map_fst 0 m.definitions, List.map_map]
  rfl

theorem lower_eq_error_iff (m : Manifest) (first : DefinitionId) (e : Error) :
    m.lower first = .error e ↔
      (m.definitions.flatMap (fun p => p.2.defects (m.definitions.map Prod.fst))).head? = some e := by
  have each : ∀ x : (String × NodeDoc) × Nat, ∀ e,
      ((fun s => (first + x.2, s)) <$>
          lowerNode (m.definitions.zipIdx.map (fun x => (x.1.1, first + x.2))) x.1.2) = .error e ↔
        (x.1.2.defects (m.definitions.map Prod.fst)).head? = some e := by
    intro x e
    rw [Except.map_eq_error, lowerNode_eq_error_iff, numbered_names]
  -- The definitions are lowered along their numbering; the numbers play no part in the defects.
  have flat : m.definitions.zipIdx.flatMap (fun y => y.1.2.defects (m.definitions.map Prod.fst)) =
      m.definitions.flatMap (fun p => p.2.defects (m.definitions.map Prod.fst)) := by
    have regrouped := List.flatMap_map Prod.fst (fun p => p.2.defects (m.definitions.map Prod.fst))
      m.definitions.zipIdx
    rw [List.zipIdx_map_fst] at regrouped
    exact regrouped.symm
  unfold Manifest.lower
  simp only [bind_pure_comp, Except.map_eq_error]
  rw [← flat, ← mapM_eq_error_iff _ each]

theorem lower_ids {m : Manifest} {first : DefinitionId} {l : Lowered} (lowered : m.lower first = .ok l) :
    l.ids.map Prod.fst = m.definitions.map Prod.fst := by
  unfold Manifest.lower at lowered
  simp only [bind_pure_comp] at lowered
  obtain ⟨bodies, -, rfl⟩ := Except.map_eq_ok.1 lowered
  exact numbered_names m first

theorem lower_ok_iff (m : Manifest) (first : DefinitionId) :
    (∃ l, m.lower first = .ok l) ↔ ∀ p ∈ m.definitions, p.2.defects (m.definitions.map Prod.fst) = [] := by
  rw [← List.flatMap_eq_nil_iff, ← List.head?_eq_none_iff]
  constructor
  · rintro ⟨l, lowered⟩
    exact head_none_of_ok (lower_eq_error_iff m first) lowered
  · exact ok_of_head_none (lower_eq_error_iff m first)

theorem mapM_lower_eq_error_iff (l : Lowered) (n : Option NodeDoc) (e : Error) :
    n.mapM l.lower = .error e ↔ ((n.map (NodeDoc.defects (l.ids.map Prod.fst))).getD []).head? = some e := by
  cases n with
  | none => simp [Option.mapM, pure, Except.pure]
  | some n => simp [Option.mapM, Lowered.lower, lowerNode_eq_error_iff]

theorem addRoute_of_documented (l : Lowered) (r : RouteDoc) (d : Docs) {path : String}
    (documented : r.path.documented = .ok path) :
    (∀ e, (r.defects (l.ids.map Prod.fst)).head? = some e → Docs.addRoute l r d = .error e) ∧
    (r.defects (l.ids.map Prod.fst) = [] →
      ∃ inputs, Docs.addRoute l r d = d.route l.bodies r.method path inputs r.description) := by
  have params := mapM_lower_eq_error_iff l r.params
  have body := mapM_lower_eq_error_iff l r.body
  have query := mapM_lower_eq_error_iff l r.query
  unfold Docs.addRoute RouteDoc.defects
  rw [documented, Except.ok_bind]
  simp only [List.flatMap_cons, List.flatMap_nil]
  constructor
  · intro e first
    refine bind_eq_error_of_head params (fun _ _ rest => ?_) first
    refine bind_eq_error_of_head body (fun _ _ rest => ?_) rest
    exact bind_eq_error_of_head query (fun _ _ none => by cases none) rest
  · intro clean
    simp only [List.append_eq_nil_iff] at clean
    obtain ⟨cleanParams, cleanBody, cleanQuery, -⟩ := clean
    obtain ⟨p, hp⟩ := ok_of_head_none params (by rw [cleanParams]; rfl)
    obtain ⟨b, hb⟩ := ok_of_head_none body (by rw [cleanBody]; rfl)
    obtain ⟨q, hq⟩ := ok_of_head_none query (by rw [cleanQuery]; rfl)
    exact ⟨⟨p, b, q⟩, by rw [hp, Except.ok_bind, hb, Except.ok_bind, hq, Except.ok_bind]⟩

theorem lowering_reports_first_defect (m : Manifest) (first : DefinitionId) :
    (∀ e, m.lower first = .error e ↔
      (m.definitions.flatMap (fun p => p.2.defects (m.definitions.map Prod.fst))).head? = some e) ∧
    ((∃ l, m.lower first = .ok l) ↔
      ∀ p ∈ m.definitions, p.2.defects (m.definitions.map Prod.fst) = []) ∧
    ∀ l, m.lower first = .ok l → ∀ (r : RouteDoc) (d : Docs),
      (∀ e, r.path.documented = .error e → Docs.addRoute l r d = .error e) ∧
      ∀ path, r.path.documented = .ok path →
        (∀ e, (r.defects (m.definitions.map Prod.fst)).head? = some e → Docs.addRoute l r d = .error e) ∧
        (r.defects (m.definitions.map Prod.fst) = [] →
          ∃ inputs, Docs.addRoute l r d = d.route l.bodies r.method path inputs r.description) := by
  refine ⟨lower_eq_error_iff m first, lower_ok_iff m first, fun l lowered r d => ⟨?_, ?_⟩⟩
  · intro e failed
    unfold Docs.addRoute
    rw [failed]
    rfl
  · intro path documented
    rw [← lower_ids lowered]
    exact addRoute_of_documented l r d documented

theorem unknown_param_reported_before_body :
    let ref (n : String) : NodeDoc := { kind := "ref", name := some n }
    let m : Manifest :=
      { definitions := [("Tree", { kind := "object", fields := some [("next", ref "Tree"), ("leaf", ref "Leaf")] }),
                        ("Leaf", { kind := "string", element := some { kind := "array" } })] }
    let r : RouteDoc :=
      { method := .get, path := .literal "/trees",
        params := some { kind := "object", fields := some [("id", ref "Id")] },
        body := some { kind := "array" } }
    ∃ l, m.lower 0 = .ok l ∧ Docs.addRoute l r (Docs.new 0) = .error (.unknownDefinition "Id") := by
  intro ref m r
  have clean : ∀ p ∈ m.definitions, p.2.defects (m.definitions.map Prod.fst) = [] := by
    intro p mem
    simp only [m, List.mem_cons, List.not_mem_nil, or_false] at mem
    rcases mem with rfl | rfl <;> rfl
  obtain ⟨l, lowered⟩ := ((lowering_reports_first_defect m 0).2.1).2 clean
  exact ⟨l, lowered, (((lowering_reports_first_defect m 0).2.2 l lowered r (Docs.new 0)).2 "/trees" rfl).1 _ rfl⟩

end OpenApiGen
