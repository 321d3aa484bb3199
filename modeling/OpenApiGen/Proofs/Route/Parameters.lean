import OpenApiGen.Proofs.Schema.Termination

/-!
# Parameters agree with the object conversion

A params or query root is followed through references (`Bodies.Follows`); a root that reaches an
object gives one parameter per field, read off the property and required names of that object's
conversion.
-/

namespace OpenApiGen

/-- Following `n` through the bodies of `B`, with the definitions of `seen` already passed, reaches
the node `m`, which is not a reference, before any definition comes back. -/
inductive Bodies.Follows (B : Bodies) : List DefinitionId → Schema → Schema → Prop where
  | stop {seen : List DefinitionId} {n : Schema} : (∀ i, n ≠ .ref i) → Bodies.Follows B seen n n
  | body {seen : List DefinitionId} {i : DefinitionId} {b m : Schema} :
      i ∉ seen → B.lookup i = some b → Bodies.Follows B (i :: seen) b m → Bodies.Follows B seen (.ref i) m

/-- The parameter of field `f`, given its property in the object's conversion and the object's
required names: a `$ref` property is not embedded, the parameter's schema is `{}` and its
description names the component; any other property is the schema, with the field's note. -/
def parameterOf (location : Location) (required : List String) (f : String × Schema) (property : Json) :
    Parameter :=
  { location, name := f.1, required := decide (f.1 ∈ required),
    description := match referencedName? property with
      | some x => some (if x = anyTypeName then "reffered to type " ++ anyTypeName else "reffered to " ++ x)
      | none => inlineDescription f.2,
    schema := if (referencedName? property).isSome then .object [] else property }

variable {B o : Bodies} {seen : List DefinitionId} {m : Schema}

theorem resolveRoot_eq_some_iff_of_unresolved :
    ∀ o root seen, Unresolved B o seen → ∀ m, resolveRoot o root = some m ↔ B.Follows seen root m := by
  intro o root
  induction o, root using resolveRoot.induct with
  | case1 o i b rest taken ih =>
    intro seen unresolved m
    have looked := (Bodies.take?_eq_some taken).1
    rw [unresolved.lookup i] at looked
    have fresh : i ∉ seen := fun seenBefore => by simp [seenBefore] at looked
    rw [if_neg fresh] at looked
    rw [resolveRoot_ref_taken taken, ih (i :: seen) (unresolved.take taken) m]
    constructor
    · exact fun follows => .body fresh looked follows
    · intro follows
      cases follows with
      | stop notRef => exact absurd rfl (notRef i)
      | body _ found rest =>
        rw [looked] at found
        cases found
        exact rest
  | case2 o i absent =>
    intro seen unresolved m
    rw [resolveRoot_ref_absent absent]
    simp only [reduceCtorEq, false_iff]
    intro follows
    cases follows with
    | stop notRef => exact notRef i rfl
    | @body _ _ b _ fresh found _ =>
      have present : o.lookup i = some b := by rw [unresolved.lookup i, if_neg fresh, found]
      obtain ⟨rest, taken⟩ := Bodies.take?_of_lookup present
      rw [taken] at absent
      cases absent
  | case3 o n notRef =>
    intro seen unresolved m
    rw [resolveRoot_of_not_ref notRef]
    constructor
    · rintro ⟨⟩
      exact .stop (fun i same => notRef i same)
    · intro follows
      cases follows with
      | stop _ => rfl
      | body _ _ _ => exact absurd rfl (notRef _)


theorem resolveRoot_eq_some_iff (distinct : (B.map Prod.fst).Nodup) (root : Schema) :
    resolveRoot B root = some m ↔ B.Follows [] root m :=
  resolveRoot_eq_some_iff_of_unresolved B root [] ⟨fun j => by simp, distinct⟩ m

variable {c : Category} {r r' : Registry}

theorem fieldParameters_eq (loc : Location) (fs : List (String × Schema)) (r : Registry) :
    fieldParameters c B loc fs r =
      (fun x => ((fs.zip x.1).map (fun q => fieldParameter loc q.1.1 q.1.2 q.2.2), x.2.2)) <$>
        convertFields c B fs r := by
  induction fs generalizing r with
  | nil => simp [fieldParameters, convertFields, Functor.map, Except.map]
  | cons f rest ih =>
    obtain ⟨k, n⟩ := f
    rw [fieldParameters, convertFields]
    cases convert c B n r with
    | error e => rfl
    | ok x =>
      obtain ⟨j, r1⟩ := x
      simp only [bind, Except.bind]
      rw [ih r1]
      cases convertFields c B rest r1 with
      | error e => rfl
      | ok y => simp [Functor.map, Except.map, pure, Except.pure]

theorem mem_required_iff {fs : List (String × Schema)} {props : Fields} {req : List String}
    (converted : convertFields c o fs r = .ok (props, req, r')) (distinct : (fs.map Prod.fst).Nodup)
    {f : String × Schema} (member : f ∈ fs) : f.1 ∈ req ↔ f.2.isRequired = true := by
  have names : req = (fs.filter (fun p => p.2.isRequired)).map Prod.fst := by
    have strings := convertFields_required converted
    have composed : (fs.filter (fun p => p.2.isRequired)).map (fun p => Json.string p.1) =
        ((fs.filter (fun p => p.2.isRequired)).map Prod.fst).map Json.string := by
      rw [List.map_map]
      rfl
    rw [requiredNames, composed] at strings
    exact List.map_injective_iff.2 (fun a b same => by injection same) strings
  rw [names]
  simp only [List.mem_map, List.mem_filter]
  constructor
  · rintro ⟨g, ⟨inFs, required⟩, sameName⟩
    rw [← List.inj_on_of_nodup_map distinct inFs member sameName]
    exact required
  · exact fun required => ⟨f, ⟨member, required⟩, rfl⟩

theorem fieldParameter_eq_parameterOf {req : List String} {f : String × Schema} (loc : Location)
    (required : f.1 ∈ req ↔ f.2.isRequired = true) (property : Json) :
    fieldParameter loc f.1 f.2 property = parameterOf loc req f property := by
  have flag : decide (f.1 ∈ req) = f.2.isRequired := by
    cases h : f.2.isRequired <;> simp_all
  unfold fieldParameter parameterOf
  cases referencedName? property with
  | none => simp [flag]
  | some x => by_cases any : x = anyTypeName <;> simp [flag, any]


theorem parameters_eq (c : Category) (B : Bodies) (root : Schema) (r : Registry) :
    parameters c B root r =
      match resolveRoot B root with
      | some (.object fs) => fieldParameters c B (if c = .params then .path else .query) fs r
      | some (.union _) => .error (.unsupportedRootUnion c)
      | _ => .ok ([], r) := by
  cases c <;> rfl

/-- A params or query root gives no parameter when it reaches neither an object nor a union, is
refused when it reaches a union, and otherwise gives the parameters of the object's fields in
order, from the properties and required names of the fields' conversion, with the registry that
conversion leaves. -/
theorem parameters_agree_with_object_conversion (c : Category) (B : Bodies) (root : Schema)
    (r : Registry) (distinct : (B.map Prod.fst).Nodup) :
    ((∀ m, B.Follows [] root m → (∀ fs, m ≠ .object fs) ∧ ∀ opts, m ≠ .union opts) →
      parameters c B root r = .ok ([], r)) ∧
    (∀ opts, B.Follows [] root (.union opts) →
      parameters c B root r = .error (.unsupportedRootUnion c)) ∧
    (∀ fs, B.Follows [] root (.object fs) → (fs.map Prod.fst).Nodup →
      parameters c B root r =
        (fun x => ((fs.zip x.1).map (fun q =>
            parameterOf (if c = .params then .path else .query) x.2.1 q.1 q.2.2), x.2.2)) <$>
          convertFields c B fs r) := by
  have follows := fun m => resolveRoot_eq_some_iff (m := m) distinct root
  refine ⟨?none, ?union, ?object⟩
  case none =>
    intro neither
    rw [parameters_eq]
    cases resolved : resolveRoot B root with
    | none => rfl
    | some m =>
      obtain ⟨notObject, notUnion⟩ := neither m ((follows m).1 resolved)
      cases m with
      | object fs => exact absurd rfl (notObject fs)
      | union opts => exact absurd rfl (notUnion opts)
      | _ => rfl
  case union =>
    intro opts reaches
    rw [parameters_eq, (follows _).2 reaches]
  case object =>
    intro fs reaches fieldNames
    rw [parameters_eq, (follows _).2 reaches]
    dsimp only
    rw [fieldParameters_eq]
    cases converted : convertFields c B fs r with
    | error e => rfl
    | ok x =>
      obtain ⟨props, req, r'⟩ := x
      simp only [Functor.map, Except.map, Except.ok.injEq, Prod.mk.injEq, and_true]
      apply List.map_congr_left
      intro q member
      exact fieldParameter_eq_parameterOf _
        (mem_required_iff converted fieldNames (List.of_mem_zip member).1) _

/-- A query root that is a reference to a reference to an object with a date field and an
optional field. -/
theorem aliased_query_root_parameters :
    let fs : List (String × Schema) :=
      [("at", .primitive .date), ("tag", Schema.optional (.primitive .string))]
    let B : Bodies := [(0, .ref 1), (1, .object fs)]
    (B.map Prod.fst).Nodup ∧ B.Follows [] (.ref 0) (.object fs) ∧ (fs.map Prod.fst).Nodup ∧
      parameters .query B (.ref 0) (Registry.new 1) =
        (fun x => ((fs.zip x.1).map (fun q => parameterOf .query x.2.1 q.1 q.2.2), x.2.2)) <$>
          convertFields .query B fs (Registry.new 1) := by
  intro fs B
  have distinct : (B.map Prod.fst).Nodup := by decide
  have reaches : B.Follows [] (.ref 0) (.object fs) :=
    .body (by simp) rfl (.body (by simp) rfl (.stop (fun i same => by cases same)))
  have fieldNames : (fs.map Prod.fst).Nodup := by decide
  exact ⟨distinct, reaches, fieldNames,
    (parameters_agree_with_object_conversion .query B (.ref 0) (Registry.new 1) distinct).2.2 fs
      reaches fieldNames⟩

end OpenApiGen
