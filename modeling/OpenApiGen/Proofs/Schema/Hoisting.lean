import OpenApiGen.Proofs.Schema.Inline
import OpenApiGen.Proofs.Docs.Closure

/-!
# Hoisting into components keeps a schema's meaning

Resolving the references of a conversion through the registry it leaves gives the node's inline
form (`convert_resolves_inline`), provided what the memo already holds for the definitions the node
reaches has that form in the same category: the memo is keyed by definition alone.
-/

namespace OpenApiGen

namespace Registry

def Keeps (r r' : Registry) : Prop := ∀ x d, r.get? x = some d → r'.get? x = some d

def KeepsFilled (r r' : Registry) : Prop :=
  ∀ x d, r.get? x = some d → d ≠ .object [] → r'.get? x = some d

/-- `v` resolves to `w` through `r`, and through every registry that keeps the definitions of `r`
other than the placeholder `{}`. -/
def Means (r : Registry) (v w : Json) : Prop := ∀ rf, r.KeepsFilled rf → Resolves rf v w

variable {r r1 r2 r' : Registry} {v w d : Json} {name : String} {key : Option ComponentKey}

theorem Keeps.refl (r : Registry) : r.Keeps r := fun _ _ => id

theorem Keeps.trans (first : r.Keeps r1) (second : r1.Keeps r2) : r.Keeps r2 :=
  fun x d found => second x d (first x d found)

theorem Keeps.filled (keeps : r.Keeps r') : r.KeepsFilled r' := fun x d found _ => keeps x d found

theorem KeepsFilled.refl (r : Registry) : r.KeepsFilled r := fun _ _ found _ => found

theorem KeepsFilled.trans (first : r.KeepsFilled r1) (second : r1.KeepsFilled r2) :
    r.KeepsFilled r2 :=
  fun x d found filled => second x d (first x d found filled) filled

theorem Means.mono (kept : r.KeepsFilled r') (means : r.Means v w) : r'.Means v w :=
  fun rf kept' => means rf (kept.trans kept')

theorem Means.of_refs (noRefs : v.refs = []) : r.Means v v := fun _ _ => Resolves.self noRefs

theorem Keeps.fill (keeps : r.Keeps r2) (fresh : r.get? name = none) :
    r.Keeps (r2.register none name d) := by
  intro x e found
  have other : x ≠ name := by
    rintro rfl
    rw [fresh] at found
    cases found
  rw [get?_register, if_neg other]
  exact keeps x e found

theorem keepsFilled_fill (placeholder : r.get? name = some (.object [])) :
    r.KeepsFilled (r.register none name d) := by
  intro x e found filled
  have other : x ≠ name := by
    rintro rfl
    rw [placeholder, Option.some.injEq] at found
    exact filled found.symm
  rw [get?_register, if_neg other]
  exact found

theorem Means.hoisted (placeholder : r.get? name = some (.object [])) (filled : d ≠ .object [])
    (means : r.Means d w) : (r.register none name d).Means (reference name) w := by
  intro rf kept
  have stored : rf.get? name = some d := kept name d (by simp [get?_register]) filled
  exact .ref (referencedName?_reference name) stored (means rf ((keepsFilled_fill placeholder).trans kept))

theorem lookup_reserve (reserved : r.reserve key = .ok (name, r1)) (k : ComponentKey) :
    r1.lookup k = if key = some k then some name else r.lookup k := by
  obtain ⟨-, rfl, rfl⟩ := reserve_eq_ok.1 reserved
  rw [lookup_register]
  rfl

namespace Valid

variable (valid : r.Valid)
include valid

theorem keeps_reserve (reserved : r.reserve key = .ok (name, r1)) :
    r.Keeps r1 ∧ r.get? name = none ∧ r1.get? name = some (.object []) := by
  obtain ⟨-, rfl, rfl⟩ := reserve_eq_ok.1 reserved
  have fresh : r.get? (typeName r.next.toNat) = none :=
    Fields.get?_eq_none_iff.2 valid.typeName_next_not_mem
  refine ⟨fun x e found => ?_, fresh, by simp [get?_register]⟩
  have other : x ≠ typeName r.next.toNat := by
    rintro rfl
    rw [fresh] at found
    cases found
  rw [get?_register, if_neg other]
  exact found

theorem keeps_anyType : r.Keeps r.anyType.2 := by
  rw [anyType_eq]
  split
  · next unknown =>
    have absent : anyTypeName ∉ r.schemas.keys := by
      intro member
      have := valid.anyType_lookup
      rw [if_pos member, unknown] at this
      cases this
    intro x e found
    have other : x ≠ anyTypeName := by
      rintro rfl
      exact absent (Fields.mem_keys_of_get? found)
    rw [get?_register, if_neg other]
    exact found
  · exact Keeps.refl r

theorem get?_anyType : r.anyType.2.get? anyTypeName = some anyTypeSchema := by
  apply valid.anyType.anyType_schema
  rw [anyType_eq]
  split
  · simp
  · next known =>
    by_contra absent
    have := valid.anyType_lookup
    rw [if_neg absent] at this
    exact known this

end Valid

theorem lookup_anyType_definition (i : DefinitionId) :
    r.anyType.2.lookup (.definition i) = r.lookup (.definition i) := by
  rw [anyType_eq]
  split
  · rw [lookup_register, if_neg (by simp)]
  · rfl

section Faithful

variable (c : Category) (bodies : Bodies)

/-- What a conversion in category `c` over `bodies` does to the registry: every definition stays,
and every definition it newly remembers is remembered under a name meaning its inline form. -/
structure Hoists (r r' : Registry) : Prop where
  keeps : r.Keeps r'
  memo : ∀ i x, r.lookup (.definition i) = none → r'.lookup (.definition i) = some x →
    r'.Means (reference x) (inline c bodies (.ref i))

/-- Every definition `n` reaches that `r` remembers is remembered under a name meaning its inline
form in category `c`. -/
def Faithful (r : Registry) (n : Schema) : Prop :=
  ∀ i x, Reaches bodies n i → r.lookup (.definition i) = some x →
    r.Means (reference x) (inline c bodies (.ref i))

variable {c bodies} {n m : Schema}

theorem Hoists.refl (r : Registry) : r.Hoists c bodies r :=
  ⟨Keeps.refl r, fun _ _ none found => by rw [none] at found; cases found⟩

theorem Hoists.of_keeps (keeps : r.Keeps r') (memo : ∀ i, r'.lookup (.definition i) = r.lookup (.definition i)) :
    r.Hoists c bodies r' :=
  ⟨keeps, fun i _ none found => by rw [memo, none] at found; cases found⟩

theorem Hoists.trans (first : r.Hoists c bodies r1) (second : r1.Hoists c bodies r2) (grows : r1.Grows r2) :
    r.Hoists c bodies r2 := by
  refine ⟨first.keeps.trans second.keeps, fun i x none found => ?_⟩
  cases between : r1.lookup (.definition i) with
  | none => exact second.memo i x between found
  | some y =>
    rw [grows.lookup _ _ between, Option.some.injEq] at found
    subst found
    exact (first.memo i y none between).mono second.keeps.filled

theorem Hoists.fill (hoists : r.Hoists c bodies r2) (fresh : r.get? name = none)
    (placeholder : r2.get? name = some (.object [])) : r.Hoists c bodies (r2.register none name d) := by
  refine ⟨hoists.keeps.fill fresh, fun i x none found => ?_⟩
  rw [lookup_register_none] at found
  exact (hoists.memo i x none found).mono (keepsFilled_fill placeholder)

theorem Faithful.mono (sub : n.refIds ⊆ m.refIds) (faithful : r.Faithful c bodies m) :
    r.Faithful c bodies n :=
  fun i x reaches => faithful i x (reaches.mono sub)

theorem Faithful.hoists (faithful : r.Faithful c bodies n) (hoists : r.Hoists c bodies r')
    (grows : r.Grows r') : r'.Faithful c bodies n := by
  intro i x reaches found
  cases before : r.lookup (.definition i) with
  | none => exact hoists.memo i x before found
  | some y =>
    rw [grows.lookup _ _ before, Option.some.injEq] at found
    subst found
    exact (faithful i y reaches before).mono hoists.keeps.filled

end Faithful

end Registry

/-! ## The fixed shapes of a conversion -/

open Registry

variable {c : Category} {o : Bodies} {r r' rf : Registry} {v : Json}

theorem referencedName?_of_not_mem {fs : Fields} (absent : "$ref" ∉ fs.keys) :
    referencedName? (.object fs) = none := by
  simp [referencedName?, Json.get?, Fields.get?_eq_none_iff.2 absent]

theorem resolves_objectSchema {props gs : Fields} {req : List String}
    (objects : ∀ p ∈ props, ∃ gs, p.2 = .object gs) (fields : ResolvesFields rf props gs) :
    Resolves rf (objectSchema props req)
      (.object [("type", .string "object"), ("properties", .object gs),
        ("required", .array (req.map Json.string))]) :=
  .object (referencedName?_of_not_mem (by simp [Fields.keys]))
    (.cons (.string _) (.cons (.object (referencedName?_of_objects objects) fields)
      (.cons (Resolves.self (by simp)) .nil)))

theorem resolves_arraySchema {items w : Json} (inner : Resolves rf items w) :
    Resolves rf (.object [("type", .string "array"), ("items", items)])
      (.object [("type", .string "array"), ("items", w)]) :=
  .object (referencedName?_of_not_mem (by simp [Fields.keys])) (.cons (.string _) (.cons inner .nil))

theorem resolves_anyOf {items ws : List Json} (inner : ResolvesAll rf items ws) :
    Resolves rf (.object [("anyOf", .array items)]) (.object [("anyOf", .array ws)]) :=
  .object (referencedName?_of_not_mem (by simp [Fields.keys])) (.cons (.array inner) .nil)

theorem refsAll_literals (vals : List Literal) : Json.refsAll (vals.map Literal.toJson) = [] := by
  induction vals with
  | nil => rfl
  | cons l rest ih => simp [Json.refsAll, ih]

theorem refs_inlinePrimitive (p : Primitive) : (inlinePrimitive c p).refs = [] := by
  cases p <;> cases c <;> simp [inlinePrimitive, anyTypeSchema, Json.refs_object, referencedName?,
    Json.get?, Fields.get?, Json.refsFields, Json.refsAll]

theorem primitiveSchema_inline {p : Primitive} (notAny : p ≠ .any) (notUnknown : p ≠ .unknown) :
    primitiveSchema c p r = (inlinePrimitive c p, r) := by
  cases p <;> cases c <;> simp_all [primitiveSchema, inlinePrimitive, annotated, typeOnly,
    bigintDescription, dateDescription]

theorem primitiveSchema_means {bodies : Bodies} (valid : r.Valid) {p : Primitive}
    (converted : primitiveSchema c p r = (v, r')) :
    r.Hoists c bodies r' ∧ r'.Means v (inlinePrimitive c p) := by
  -- `any` and `unknown` point at the shared component, which holds the schema admitting anything
  have anyType : r.anyType = (v, r') → r.Hoists c bodies r' ∧ r'.Means v anyTypeSchema := by
    intro stored
    have fragment : v = reference anyTypeName := by
      have := congrArg Prod.fst stored
      rw [anyType_eq] at this
      exact this.symm
    have registry : r' = r.anyType.2 := (congrArg Prod.snd stored).symm
    rw [registry, fragment]
    refine ⟨.of_keeps valid.keeps_anyType lookup_anyType_definition, fun rf kept => ?_⟩
    have stored' := kept _ _ valid.get?_anyType (by simp [anyTypeSchema])
    exact .ref (referencedName?_reference _) stored' (Resolves.self (refs_inlinePrimitive (c := c) .any))
  cases p
  case any | unknown => exact anyType converted
  all_goals
    rw [primitiveSchema_inline (by simp) (by simp), Prod.mk.injEq] at converted
    obtain ⟨rfl, rfl⟩ := converted
    exact ⟨Hoists.refl r, Means.of_refs (refs_inlinePrimitive _)⟩

theorem convertFields_required {fs : List (String × Schema)} {props : Fields} {req : List String}
    (converted : convertFields c o fs r = .ok (props, req, r')) :
    req.map Json.string = requiredNames fs := by
  induction fs generalizing r props req with
  | nil =>
    obtain ⟨-, rfl, -⟩ := convertFields_nil.1 converted
    rfl
  | cons field rest ih =>
    obtain ⟨k, n⟩ := field
    obtain ⟨j, r1, props', req', -, tail, -, rfl⟩ := convertFields_cons_eq_ok.1 converted
    have names := ih tail
    unfold requiredNames at names ⊢
    cases required : n.isRequired <;> simp [required, names]

theorem convert_ne_placeholder {n : Schema} (converted : convert c o n r = .ok (v, r')) :
    v ≠ .object [] := by
  obtain ⟨f, fs, rfl⟩ := convert_nonempty n converted
  simp

/-! ## Meaning is kept -/

section Meaning

variable {B : Bodies}

theorem Bodies.Covers.full (covers : B.Covers o n) : B.Covers B n := by
  intro j reaches
  obtain ⟨b, -, found⟩ := covers j reaches
  exact ⟨b, found, found⟩

theorem convert_means_all (acyclic : B.Acyclic) :
    (∀ o n r v r', r.Valid → B.Covers o n → r.Faithful c B n → convert c o n r = .ok (v, r') →
      r.Hoists c B r' ∧ r'.Means v (inline c o n)) ∧
    (∀ o ns r items r', r.Valid → B.Covers o (.tuple ns) → r.Faithful c B (.tuple ns) →
      convertAll c o ns r = .ok (items, r') →
      r.Hoists c B r' ∧ ∀ rf, r'.KeepsFilled rf → ResolvesAll rf items (inlineAll c o ns)) ∧
    (∀ o fs r props req r', r.Valid → B.Covers o (.object fs) → r.Faithful c B (.object fs) →
      convertFields c o fs r = .ok (props, req, r') →
      r.Hoists c B r' ∧ ∀ rf, r'.KeepsFilled rf → ResolvesFields rf props (inlineFields c o fs)) := by
  refine convert.mutual_induct
    (fun o n r => ∀ v r', r.Valid → B.Covers o n → r.Faithful c B n →
      convert c o n r = .ok (v, r') → r.Hoists c B r' ∧ r'.Means v (inline c o n))
    (fun o ns r => ∀ items r', r.Valid → B.Covers o (.tuple ns) → r.Faithful c B (.tuple ns) →
      convertAll c o ns r = .ok (items, r') →
      r.Hoists c B r' ∧ ∀ rf, r'.KeepsFilled rf → ResolvesAll rf items (inlineAll c o ns))
    (fun o fs r => ∀ props req r', r.Valid → B.Covers o (.object fs) → r.Faithful c B (.object fs) →
      convertFields c o fs r = .ok (props, req, r') →
      r.Hoists c B r' ∧ ∀ rf, r'.KeepsFilled rf → ResolvesFields rf props (inlineFields c o fs))
    ?primitive ?object ?array ?tuple ?union ?enum ?record ?hit ?miss ?other ?allNil ?allCons
    ?fieldsNil ?fieldsCons
  case primitive =>
    intro o p r v r' valid _ _ converted
    rw [convert_primitive, Except.ok.injEq] at converted
    rw [inline]
    exact primitiveSchema_means valid converted
  case object =>
    intro o fs r fields v r' valid covers faithful converted
    obtain ⟨props, req, convertedFields, rfl⟩ := convert_object_eq_ok.1 converted
    obtain ⟨hoists, resolves⟩ := fields props req r' valid covers faithful convertedFields
    refine ⟨hoists, fun rf kept => ?_⟩
    rw [inline, ← convertFields_required convertedFields]
    exact resolves_objectSchema (convertFields_objects fs convertedFields) (resolves rf kept)
  case array =>
    intro o el r element v r' valid covers faithful converted
    obtain ⟨items, convertedItems, rfl⟩ := convert_array_eq_ok.1 converted
    obtain ⟨hoists, means⟩ := element items r' valid (covers.mono Schema.refIds_sub_array)
      (faithful.mono Schema.refIds_sub_array) convertedItems
    refine ⟨hoists, fun rf kept => ?_⟩
    rw [inline]
    exact resolves_arraySchema (means rf kept)
  case tuple =>
    intro o els r elements v r' valid covers faithful converted
    obtain ⟨name, r1, items, r2, reserved, convertedItems, rfl, rfl⟩ := convert_tuple_eq_ok.1 converted
    obtain ⟨keeps, fresh, placeholder⟩ := valid.keeps_reserve reserved
    have first : r.Hoists c B r1 := .of_keeps keeps fun i => by simp [lookup_reserve reserved]
    obtain ⟨hoists, resolves⟩ := elements r1 items r2 (valid.of_reserve reserved (by simp)).1 covers
      (faithful.hoists first (grows_reserve reserved (by simp))) convertedItems
    have placeholder2 := hoists.keeps _ _ placeholder
    refine ⟨(first.trans hoists (convertAll_grows convertedItems)).fill fresh placeholder2, ?_⟩
    rw [inline]
    exact Means.hoisted placeholder2 (by simp)
      (fun rf kept => resolves_arraySchema (resolves_anyOf (resolves rf kept)))
  case union =>
    intro o opts r options v r' valid covers faithful converted
    obtain ⟨name, r1, items, r2, reserved, convertedItems, rfl, rfl⟩ := convert_union_eq_ok.1 converted
    obtain ⟨keeps, fresh, placeholder⟩ := valid.keeps_reserve reserved
    have first : r.Hoists c B r1 := .of_keeps keeps fun i => by simp [lookup_reserve reserved]
    obtain ⟨hoists, resolves⟩ := options r1 items r2 (valid.of_reserve reserved (by simp)).1
      (covers.mono Schema.refIds_sub_union)
      ((faithful.mono Schema.refIds_sub_union).hoists first (grows_reserve reserved (by simp)))
      convertedItems
    have placeholder2 := hoists.keeps _ _ placeholder
    refine ⟨(first.trans hoists (convertAll_grows convertedItems)).fill fresh placeholder2, ?_⟩
    rw [inline]
    exact Means.hoisted placeholder2 (by simp) (fun rf kept => resolves_anyOf (resolves rf kept))
  case enum =>
    intro o vals r v r' _ _ _ converted
    simp only [convert_enum, Except.ok.injEq, Prod.mk.injEq] at converted
    obtain ⟨rfl, rfl⟩ := converted
    rw [inline]
    exact ⟨Hoists.refl r, Means.of_refs (by simp [Json.refs_object, referencedName?, Json.get?,
      Fields.get?, Json.refsFields, refsAll_literals])⟩
  case record =>
    intro o n r inner v r' valid covers faithful converted
    rw [inline]
    exact inner v r' valid (covers.mono Schema.refIds_sub_record)
      (faithful.mono Schema.refIds_sub_record) (by simpa using converted)
  case hit =>
    intro o i r name found v r' _ covers faithful converted
    rcases convert_ref_eq_ok.1 converted with ⟨name', found', rfl, rfl⟩ | ⟨missing, -⟩
    · refine ⟨Hoists.refl _, ?_⟩
      rw [← inline_congr acyclic covers.full covers]
      exact faithful i name' .self found'
    · rw [found] at missing
      cases missing
  case miss =>
    intro o i r missing body v r' valid covers faithful converted
    rcases convert_ref_eq_ok.1 converted with
      ⟨_, found, -⟩ | ⟨-, name, r1, b, r2, reserved, expanded, rfl, rfl⟩
    · rw [found] at missing
      cases missing
    -- the body is open here, and the rest of the open bodies still covers it
    obtain ⟨b', rest, taken, -⟩ := covers.take
    obtain ⟨defined, coversBody⟩ := covers.rest acyclic taken
    rw [taken] at expanded
    obtain ⟨keeps, fresh, placeholder⟩ := valid.keeps_reserve reserved
    have others : ∀ j, j ≠ i → r1.lookup (.definition j) = r.lookup (.definition j) := by
      intro j other
      rw [lookup_reserve reserved, if_neg (by simpa using Ne.symm other)]
    -- what the body reaches was remembered, if at all, before this reference was
    have faithfulBody : r1.Faithful c B b' := by
      intro j x reaches found
      have other : j ≠ i := by
        rintro rfl
        exact acyclic j b' defined reaches
      rw [others j other] at found
      exact (faithful j x (Reaches.body defined reaches) found).mono keeps.filled
    obtain ⟨hoists, means⟩ :=
      body r1 b' rest taken b r2 (valid.of_reserve reserved (by simp)).1 coversBody faithfulBody expanded
    have placeholder2 := hoists.keeps _ _ placeholder
    have stands : (r2.register none name b).Means (reference name) (inline c B (.ref i)) := by
      rw [inline_congr acyclic covers.full covers, inline_ref_of_take? taken]
      exact Means.hoisted placeholder2 (convert_ne_placeholder expanded) means
    refine ⟨⟨(keeps.trans hoists.keeps).fill fresh, fun j x none found => ?_⟩, ?_⟩
    · rw [lookup_register_none] at found
      by_cases same : j = i
      · subst same
        have remembered : r1.lookup (.definition j) = some name := by simp [lookup_reserve reserved]
        rw [(convert_grows expanded).lookup _ _ remembered, Option.some.injEq] at found
        subst found
        exact stands
      · rw [← others j same] at none
        exact (hoists.memo j x none found).mono (keepsFilled_fill placeholder2)
    · rwa [← inline_congr acyclic covers.full covers]
  case other =>
    intro o k r v r' _ _ _ converted
    simp only [convert_other, Except.ok.injEq, Prod.mk.injEq] at converted
    obtain ⟨rfl, rfl⟩ := converted
    rw [inline]
    exact ⟨Hoists.refl r, Means.of_refs (refs_typeOnly k)⟩
  case allNil =>
    intro o r items r' _ _ _ converted
    obtain ⟨rfl, rfl⟩ := convertAll_nil.1 converted
    exact ⟨Hoists.refl _, fun rf _ => by rw [inlineAll]; exact .nil⟩
  case allCons =>
    intro o n rest r head tail items r' valid covers faithful converted
    obtain ⟨j, r1, js, convertedHead, convertedTail, rfl⟩ := convertAll_cons_eq_ok.1 converted
    obtain ⟨first, means⟩ := head j r1 valid (covers.mono Schema.refIds_sub_tuple_head)
      (faithful.mono Schema.refIds_sub_tuple_head) convertedHead
    obtain ⟨second, resolves⟩ := tail r1 js r' (convert_valid valid convertedHead)
      (covers.mono Schema.refIds_sub_tuple_tail)
      ((faithful.mono Schema.refIds_sub_tuple_tail).hoists first (convert_grows convertedHead))
      convertedTail
    refine ⟨first.trans second (convertAll_grows convertedTail), fun rf kept => ?_⟩
    rw [inlineAll]
    exact .cons (means rf (second.keeps.filled.trans kept)) (resolves rf kept)
  case fieldsNil =>
    intro o r props req r' _ _ _ converted
    obtain ⟨rfl, -, rfl⟩ := convertFields_nil.1 converted
    exact ⟨Hoists.refl _, fun rf _ => by rw [inlineFields]; exact .nil⟩
  case fieldsCons =>
    intro o k n rest r head tail props req r' valid covers faithful converted
    obtain ⟨j, r1, props', req', convertedHead, convertedTail, rfl, -⟩ :=
      convertFields_cons_eq_ok.1 converted
    obtain ⟨first, means⟩ := head j r1 valid (covers.mono Schema.refIds_sub_object_head)
      (faithful.mono Schema.refIds_sub_object_head) convertedHead
    obtain ⟨second, resolves⟩ := tail r1 props' req' r' (convert_valid valid convertedHead)
      (covers.mono Schema.refIds_sub_object_tail)
      ((faithful.mono Schema.refIds_sub_object_tail).hoists first (convert_grows convertedHead))
      convertedTail
    refine ⟨first.trans second (convertFields_grows convertedTail), fun rf kept => ?_⟩
    rw [inlineFields]
    exact .cons (means rf (second.keeps.filled.trans kept)) (resolves rf kept)

theorem convert_means (acyclic : B.Acyclic) {n : Schema} (valid : r.Valid) (covers : B.Covers o n)
    (faithful : r.Faithful c B n) (converted : convert c o n r = .ok (v, r')) :
    r.Hoists c B r' ∧ r'.Means v (inline c o n) :=
  (convert_means_all acyclic).1 o n r v r' valid covers faithful converted

end Meaning

/-- In a reachable state, converting a node over definitions without a cycle gives a fragment
whose references resolve, through the registry the conversion leaves, to the node's inline form
for the category, provided every component the registry already remembers for a definition the
node reaches resolves to that definition's inline form in the same category. -/
theorem convert_resolves_inline {first : UInt32} {d : Docs} {bodies : Bodies} {n : Schema}
    (reachable : d.Reachable first) (acyclic : bodies.Acyclic)
    (defined : ∀ j, Reaches bodies n j → (bodies.lookup j).isSome)
    (remembered : ∀ i x, Reaches bodies n i → d.registry.lookup (.definition i) = some x →
      Resolves d.registry (reference x) (inline c bodies (.ref i)))
    (converted : convert c bodies n d.registry = .ok (v, r')) :
    Resolves r' v (inline c bodies n) := by
  -- a reachable registry holds no placeholder, so what resolves through it resolves through
  -- every registry that keeps its filled definitions
  have sealed := reachable.closed.sealed
  have faithful : d.registry.Faithful c bodies n := fun i x reaches found rf kept =>
    (remembered i x reaches found).keep fun y e stored => kept y e stored (sealed.get?_ne stored)
  exact (convert_means acyclic reachable.valid (Bodies.covers_self defined) faithful converted).2 r'
    (KeepsFilled.refl r')

theorem register_bigint_body_route :
    ((Docs.new 1).register
      { definitions := [("D", { kind := "bigint" })],
        routes := [{ method := .post, path := .literal "/a",
                     body := some { kind := "object",
                                    fields := some [("x", { kind := "ref", name := some "D" })] } }] }
      ).1.registry =
      ⟨1, 2, [("type1", .object [("type", .string "number"), ("description", .string "Type: bigint")])],
        [(.definition 0, "type1")]⟩ := by
  have lowerDefinition : lowerNode [("D", 0)] { kind := "bigint" } = .ok (.primitive .bigint) := rfl
  have lowerBody : lowerNode [("D", 0)]
      { kind := "object", fields := some [("x", { kind := "ref", name := some "D" })] } =
      .ok (.object [("x", .ref 0)]) := rfl
  simp [Docs.register, Manifest.lower, lowerDefinition, lowerBody, Docs.addRoutes, Docs.addRoute,
    Docs.addMounts, PathDoc.documented, Docs.route, PathTable.record, assemble, optionalParameters,
    optionalBody, bodySchema, convert, convertFields, PathTable.add, Docs.new, bind, Except.bind, pure,
    Except.pure, Lowered.lower, Option.mapM, Functor.map, Except.map, primitiveSchema, annotated,
    objectSchema, Registry.new, Schema.isRequired, Registry.reserve, Registry.allocate,
    Registry.register, Registry.lookup, Fields.insert, bigintDescription, Bodies.take?,
    Fields.contains]
  decide

/-- A bigint definition converted in a body route, and a later body node whose field refers to
it: the memo hands out the component, which holds the definition's body form. -/
theorem body_field_resolves_inline :
    let m : Manifest :=
      { definitions := [("D", { kind := "bigint" })],
        routes := [{ method := .post, path := .literal "/a",
                     body := some { kind := "object",
                                    fields := some [("x", { kind := "ref", name := some "D" })] } }] }
    let d := ((Docs.new 1).register m).1
    let bodies : Bodies := [(0, .primitive .bigint)]
    let n : Schema := .object [("y", .ref 0)]
    let v := objectSchema [("y", reference "type1")] ["y"]
    d.Reachable 1 ∧ bodies.Acyclic ∧ (∀ j, Reaches bodies n j → (bodies.lookup j).isSome) ∧
      (∀ i x, Reaches bodies n i → d.registry.lookup (.definition i) = some x →
        Resolves d.registry (reference x) (inline .body bodies (.ref i))) ∧
      convert .body bodies n d.registry = .ok (v, d.registry) ∧
      Resolves d.registry v (inline .body bodies n) := by
  intro m d bodies n v
  have reachable : d.Reachable 1 := .register m (.new _)
  have registered : d.registry =
      ⟨1, 2, [("type1", .object [("type", .string "number"), ("description", .string "Type: bigint")])],
        [(.definition 0, "type1")]⟩ :=
    register_bigint_body_route
  have acyclic : bodies.Acyclic := Bodies.acyclic_of_ranked id (by decide)
  have defined : ∀ j, Reaches bodies n j → (bodies.lookup j).isSome :=
    fun j reaches => reaches.defined (by decide) (by decide)
  have remembered : ∀ i x, Reaches bodies n i → d.registry.lookup (.definition i) = some x →
      Resolves d.registry (reference x) (inline .body bodies (.ref i)) := by
    intro i x _ found
    rw [registered] at found ⊢
    simp [Registry.lookup] at found
    obtain ⟨rfl, rfl⟩ := found
    have taken : bodies.take? 0 = some (.primitive .bigint, []) := rfl
    rw [inline_ref_of_take? taken, inline]
    show Resolves _ _ (.object [("type", .string "number"), ("description", .string "Type: bigint")])
    exact .ref (referencedName?_reference _) (by simp [Registry.get?, Fields.get?])
      (Resolves.self (by simp [Json.refs_object, referencedName?, Json.get?, Fields.get?,
        Json.refsFields]))
  have converted : convert .body bodies n d.registry = .ok (v, d.registry) := by
    rw [registered]
    simp [n, v, bodies, convert, convertFields, Registry.lookup, Schema.isRequired, bind,
      Except.bind, pure, Except.pure]
  exact ⟨reachable, acyclic, defined, remembered, converted,
    convert_resolves_inline reachable acyclic defined remembered converted⟩

/-- The memo is keyed by the definition alone: a bigint definition first converted in a body
route is stored with the body's note, and a query node of the same manifest that refers to it
later is handed that component, so its fragment resolves to the body's form of the definition and
not to the query's. -/
theorem query_reuses_body_component :
    let m : Manifest :=
      { definitions := [("D", { kind := "bigint" })],
        routes := [{ method := .post, path := .literal "/a",
                     body := some { kind := "object",
                                    fields := some [("x", { kind := "ref", name := some "D" })] } }] }
    let d := ((Docs.new 1).register m).1
    let bodies : Bodies := [(0, .primitive .bigint)]
    let n : Schema := .object [("z", .ref 0)]
    let v := objectSchema [("z", reference "type1")] ["z"]
    d.Reachable 1 ∧ (∃ l, m.lower 0 = .ok l ∧ l.bodies = bodies) ∧ bodies.Acyclic ∧
      convert .query bodies n d.registry = .ok (v, d.registry) ∧
      ¬ Resolves d.registry v (inline .query bodies n) := by
  intro m d bodies n v
  have registered : d.registry =
      ⟨1, 2, [("type1", .object [("type", .string "number"), ("description", .string "Type: bigint")])],
        [(.definition 0, "type1")]⟩ :=
    register_bigint_body_route
  refine ⟨.register m (.new _), ⟨⟨m, [("D", 0)], bodies⟩, rfl, rfl⟩,
    Bodies.acyclic_of_ranked id (by decide), ?_, fun resolves => ?_⟩
  · rw [registered]
    simp [n, v, bodies, convert, convertFields, Registry.lookup, Schema.isRequired, bind,
      Except.bind, pure, Except.pure]
  -- through the registry the field resolves to the body's form, which the query's form is not
  have stored : d.registry.get? "type1" =
      some (.object [("type", .string "number"), ("description", .string "Type: bigint")]) := by
    simp [registered, Registry.get?, Fields.get?]
  have actual : Resolves d.registry v _ := resolves_objectSchema
    (by simp [reference]) (.cons (.ref (referencedName?_reference _) stored
      (Resolves.self (by simp [Json.refs_object, referencedName?, Json.get?, Fields.get?,
        Json.refsFields]))) .nil)
  have same := resolves.unique actual
  have taken : bodies.take? 0 = some (.primitive .bigint, []) := rfl
  rw [inline, inlineFields, inlineFields, inline_ref_of_take? taken, inline] at same
  simp [inlinePrimitive] at same

end OpenApiGen
