import OpenApiGen.Schema.Convert
import OpenApiGen.Proofs.Component.Registry

/-!
# What a conversion does to the registry

One inversion lemma per kind of node, and from them, by the conversion's own induction, growth
(`convert_grows`), validity (`convert_valid`) and a non-empty fragment (`convert_nonempty`).
-/

namespace OpenApiGen

variable {c : Category} {o : Bodies} {r r' : Registry} {v : Json}

/-! ## Inversion -/

theorem convert_object_eq_ok {fs : List (String × Schema)} :
    convert c o (.object fs) r = .ok (v, r') ↔
      ∃ props req, convertFields c o fs r = .ok (props, req, r') ∧ v = objectSchema props req := by
  simp only [convert, Except.bind_eq_ok, Except.pure_eq_ok, Prod.exists, Prod.mk.injEq]
  constructor
  · rintro ⟨props, req, r1, converted, rfl, rfl⟩
    exact ⟨props, req, converted, rfl⟩
  · rintro ⟨props, req, converted, rfl⟩
    exact ⟨props, req, r', converted, rfl, rfl⟩

theorem convert_array_eq_ok {el : Schema} :
    convert c o (.array el) r = .ok (v, r') ↔
      ∃ items, convert c o el r = .ok (items, r') ∧
        v = .object [("type", .string "array"), ("items", items)] := by
  simp only [convert, Except.bind_eq_ok, Except.pure_eq_ok, Prod.exists, Prod.mk.injEq]
  constructor
  · rintro ⟨items, r1, converted, rfl, rfl⟩
    exact ⟨items, converted, rfl⟩
  · rintro ⟨items, converted, rfl⟩
    exact ⟨items, r', converted, rfl, rfl⟩

theorem convert_tuple_eq_ok {els : List Schema} :
    convert c o (.tuple els) r = .ok (v, r') ↔
      ∃ name r1 items r2, r.reserve none = .ok (name, r1) ∧ convertAll c o els r1 = .ok (items, r2) ∧
        v = reference name ∧
        r' = r2.register none name
          (.object [("type", .string "array"), ("items", .object [("anyOf", .array items)])]) := by
  simp only [convert, Except.bind_eq_ok, Except.pure_eq_ok, Prod.exists, Prod.mk.injEq]
  constructor
  · rintro ⟨name, r1, reserved, items, r2, converted, rfl, rfl⟩
    exact ⟨name, r1, items, r2, reserved, converted, rfl, rfl⟩
  · rintro ⟨name, r1, items, r2, reserved, converted, rfl, rfl⟩
    exact ⟨name, r1, reserved, items, r2, converted, rfl, rfl⟩

theorem convert_union_eq_ok {opts : List Schema} :
    convert c o (.union opts) r = .ok (v, r') ↔
      ∃ name r1 items r2, r.reserve none = .ok (name, r1) ∧ convertAll c o opts r1 = .ok (items, r2) ∧
        v = reference name ∧ r' = r2.register none name (.object [("anyOf", .array items)]) := by
  simp only [convert, Except.bind_eq_ok, Except.pure_eq_ok, Prod.exists, Prod.mk.injEq]
  constructor
  · rintro ⟨name, r1, reserved, items, r2, converted, rfl, rfl⟩
    exact ⟨name, r1, items, r2, reserved, converted, rfl, rfl⟩
  · rintro ⟨name, r1, items, r2, reserved, converted, rfl, rfl⟩
    exact ⟨name, r1, reserved, items, r2, converted, rfl, rfl⟩

theorem convert_ref_eq_ok {id : DefinitionId} :
    convert c o (.ref id) r = .ok (v, r') ↔
      (∃ name, r.lookup (.definition id) = some name ∧ v = reference name ∧ r' = r) ∨
      (r.lookup (.definition id) = none ∧ ∃ name r1 body r2,
        r.reserve (some (.definition id)) = .ok (name, r1) ∧
        (match o.take? id with
          | some (b, rest) => convert c rest b r1
          | none => .ok (typeOnly "ref", r1)) = .ok (body, r2) ∧
        v = reference name ∧ r' = r2.register none name body) := by
  rw [convert]
  split
  · next name found => simp [found, eq_comm]
  · next missing =>
    simp only [missing, true_and, reduceCtorEq, false_and, exists_false, false_or]
    split
    · next b rest taken =>
      simp only [taken, Except.bind_eq_ok, Except.pure_eq_ok, Prod.exists, Prod.mk.injEq]
      constructor
      · rintro ⟨name, r1, reserved, body, r2, converted, rfl, rfl⟩
        exact ⟨name, r1, body, r2, reserved, converted, rfl, rfl⟩
      · rintro ⟨name, r1, body, r2, reserved, converted, rfl, rfl⟩
        exact ⟨name, r1, reserved, body, r2, converted, rfl, rfl⟩
    · next absent =>
      simp only [absent, Except.bind_eq_ok, Except.pure_eq_ok, Prod.exists, Prod.mk.injEq]
      constructor
      · rintro ⟨name, r1, reserved, body, r2, converted, rfl, rfl⟩
        exact ⟨name, r1, body, r2, reserved, converted, rfl, rfl⟩
      · rintro ⟨name, r1, body, r2, reserved, converted, rfl, rfl⟩
        exact ⟨name, r1, reserved, body, r2, converted, rfl, rfl⟩

theorem convert_ref_unremembered {id : DefinitionId} (missing : r.lookup (.definition id) = none) :
    convert c o (.ref id) r = (r.reserve (some (.definition id))).bind fun p =>
      ((match o.take? id with
        | some (b, rest) => convert c rest b p.2
        | none => .ok (typeOnly "ref", p.2)).map
          fun (q : Json × Registry) => (reference p.1, q.2.register none p.1 q.1)) := by
  rw [convert]
  simp only [missing]
  split
  · next b rest taken =>
    simp only [taken]
    rfl
  · next absent =>
    simp only [absent]
    rfl

theorem convertAll_cons_eq_ok {n : Schema} {rest : List Schema} {items : List Json} :
    convertAll c o (n :: rest) r = .ok (items, r') ↔
      ∃ j r1 js, convert c o n r = .ok (j, r1) ∧ convertAll c o rest r1 = .ok (js, r') ∧
        items = j :: js := by
  simp only [convertAll, Except.bind_eq_ok, Except.pure_eq_ok, Prod.exists, Prod.mk.injEq]
  constructor
  · rintro ⟨j, r1, converted, js, r2, rest, rfl, rfl⟩
    exact ⟨j, r1, js, converted, rest, rfl⟩
  · rintro ⟨j, r1, js, converted, rest, rfl⟩
    exact ⟨j, r1, converted, js, r', rest, rfl, rfl⟩

theorem convertFields_cons_eq_ok {k : String} {n : Schema} {rest : List (String × Schema)}
    {props : Fields} {req : List String} :
    convertFields c o ((k, n) :: rest) r = .ok (props, req, r') ↔
      ∃ j r1 props' req', convert c o n r = .ok (j, r1) ∧
        convertFields c o rest r1 = .ok (props', req', r') ∧
        props = (k, j) :: props' ∧ req = (if n.isRequired then k :: req' else req') := by
  simp only [convertFields, Except.bind_eq_ok, Except.pure_eq_ok, Prod.exists, Prod.mk.injEq]
  constructor
  · rintro ⟨j, r1, converted, props', req', r2, rest, rfl, rfl, rfl⟩
    exact ⟨j, r1, props', req', converted, rest, rfl, rfl⟩
  · rintro ⟨j, r1, props', req', converted, rest, rfl, rfl⟩
    exact ⟨j, r1, converted, props', req', r', rest, rfl, rfl, rfl⟩

@[simp] theorem convert_primitive {p : Primitive} :
    convert c o (.primitive p) r = .ok (primitiveSchema c p r) := by
  rw [convert]

@[simp] theorem convert_enum {vals : List Literal} :
    convert c o (.enum vals) r =
      .ok (.object [("type", .string "enum"), ("enum", .array (vals.map Literal.toJson))], r) := by
  rw [convert]

@[simp] theorem convert_record {n : Schema} : convert c o (.record n) r = convert c o n r := by
  rw [convert]

@[simp] theorem convert_other {k : String} : convert c o (.other k) r = .ok (typeOnly k, r) := by
  rw [convert]

@[simp] theorem convertAll_nil {items : List Json} :
    convertAll c o [] r = .ok (items, r') ↔ items = [] ∧ r' = r := by
  simp [convertAll, eq_comm]

@[simp] theorem convertFields_nil {props : Fields} {req : List String} :
    convertFields c o [] r = .ok (props, req, r') ↔ props = [] ∧ req = [] ∧ r' = r := by
  simp [convertFields, eq_comm]

theorem primitiveSchema_snd (p : Primitive) :
    (primitiveSchema c p r).2 = r ∨ (primitiveSchema c p r).2 = r.anyType.2 := by
  cases p <;> simp [primitiveSchema]

theorem primitiveSchema_nonempty (p : Primitive) : ∃ f fs, (primitiveSchema c p r).1 = .object (f :: fs) := by
  cases p <;> cases c <;> simp [primitiveSchema, annotated, typeOnly, Registry.anyType_eq, reference]

theorem convert_nonempty : ∀ (n : Schema) {o : Bodies} {r r' : Registry} {v : Json},
    convert c o n r = .ok (v, r') → ∃ f fs, v = .object (f :: fs)
  | .primitive p, _, r, _, v, converted => by
    have fragment : (primitiveSchema c p r).1 = v := by
      simp only [convert_primitive, Except.ok.injEq] at converted
      rw [converted]
    rw [← fragment]
    exact primitiveSchema_nonempty p
  | .object _, _, _, _, _, converted => by
    obtain ⟨props, req, -, rfl⟩ := convert_object_eq_ok.1 converted
    exact ⟨_, _, rfl⟩
  | .array _, _, _, _, _, converted => by
    obtain ⟨items, -, rfl⟩ := convert_array_eq_ok.1 converted
    exact ⟨_, _, rfl⟩
  | .tuple _, _, _, _, _, converted => by
    obtain ⟨name, -, -, -, -, -, rfl, -⟩ := convert_tuple_eq_ok.1 converted
    exact ⟨_, _, rfl⟩
  | .union _, _, _, _, _, converted => by
    obtain ⟨name, -, -, -, -, -, rfl, -⟩ := convert_union_eq_ok.1 converted
    exact ⟨_, _, rfl⟩
  | .enum _, _, _, _, _, converted => by
    simp only [convert_enum, Except.ok.injEq, Prod.mk.injEq] at converted
    rw [← converted.1]
    exact ⟨_, _, rfl⟩
  | .record n, _, _, _, _, converted => convert_nonempty n (by simpa using converted)
  | .ref _, _, _, _, _, converted => by
    rcases convert_ref_eq_ok.1 converted with ⟨_, -, rfl, -⟩ | ⟨-, _, _, _, _, -, -, rfl, -⟩ <;>
      exact ⟨_, _, rfl⟩
  | .other _, _, _, _, _, converted => by
    simp only [convert_other, Except.ok.injEq, Prod.mk.injEq] at converted
    rw [← converted.1]
    exact ⟨_, _, rfl⟩

/-! ## Growth -/

open Registry in
theorem convert_grows_all :
    (∀ o n r v r', convert c o n r = .ok (v, r') → r.Grows r') ∧
    (∀ o ns r items r', convertAll c o ns r = .ok (items, r') → r.Grows r') ∧
    (∀ o fs r props req r', convertFields c o fs r = .ok (props, req, r') → r.Grows r') := by
  refine convert.mutual_induct
    (fun o n r => ∀ v r', convert c o n r = .ok (v, r') → r.Grows r')
    (fun o ns r => ∀ items r', convertAll c o ns r = .ok (items, r') → r.Grows r')
    (fun o fs r => ∀ props req r', convertFields c o fs r = .ok (props, req, r') → r.Grows r')
    ?primitive ?object ?array ?tuple ?union ?enum ?record ?hit ?miss ?other ?allNil ?allCons
    ?fieldsNil ?fieldsCons
  case primitive =>
    intro o p r v r' converted
    have stored : r' = (primitiveSchema c p r).2 := by
      simp only [convert_primitive, Except.ok.injEq] at converted
      rw [converted]
    rcases primitiveSchema_snd p with same | any
    · rw [stored, same]; exact Grows.refl r
    · rw [stored, any]; exact grows_anyType
  case object =>
    intro o fs r fields v r' converted
    obtain ⟨props, req, convertedFields, -⟩ := convert_object_eq_ok.1 converted
    exact fields props req r' convertedFields
  case array =>
    intro o el r element v r' converted
    obtain ⟨items, convertedItems, -⟩ := convert_array_eq_ok.1 converted
    exact element items r' convertedItems
  case tuple =>
    intro o els r elements v r' converted
    obtain ⟨name, r1, items, r2, reserved, convertedItems, -, rfl⟩ := convert_tuple_eq_ok.1 converted
    exact ((grows_reserve reserved (by simp)).trans (elements r1 items r2 convertedItems)).trans
      grows_register_none
  case union =>
    intro o opts r options v r' converted
    obtain ⟨name, r1, items, r2, reserved, convertedItems, -, rfl⟩ := convert_union_eq_ok.1 converted
    exact ((grows_reserve reserved (by simp)).trans (options r1 items r2 convertedItems)).trans
      grows_register_none
  case enum =>
    intro o vals r v r' converted
    simp only [convert_enum, Except.ok.injEq, Prod.mk.injEq] at converted
    rw [← converted.2]
    exact Grows.refl r
  case record =>
    intro o n r inner v r' converted
    exact inner v r' (by simpa using converted)
  case hit =>
    intro o id r name found v r' converted
    rcases convert_ref_eq_ok.1 converted with ⟨_, -, -, rfl⟩ | ⟨missing, -⟩
    · exact Grows.refl _
    · rw [found] at missing; cases missing
  case miss =>
    intro o id r missing body v r' converted
    rcases convert_ref_eq_ok.1 converted with ⟨_, found, -⟩ | ⟨-, name, r1, b, r2, reserved, expanded, -, rfl⟩
    · rw [found] at missing; cases missing
    · have first : r.Grows r1 := grows_reserve reserved (fun k same => by cases same; exact missing)
      refine (first.trans ?_).trans grows_register_none
      split at expanded
      · next b' rest taken => exact body r1 b' rest taken b r2 expanded
      · simp only [Except.ok.injEq, Prod.mk.injEq] at expanded
        rw [← expanded.2]
        exact Grows.refl r1
  case other =>
    intro o k r v r' converted
    simp only [convert_other, Except.ok.injEq, Prod.mk.injEq] at converted
    rw [← converted.2]
    exact Grows.refl r
  case allNil =>
    intro o r items r' converted
    rw [(convertAll_nil.1 converted).2]
    exact Grows.refl r
  case allCons =>
    intro o n rest r head tail items r' converted
    obtain ⟨j, r1, js, convertedHead, convertedTail, -⟩ := convertAll_cons_eq_ok.1 converted
    exact (head j r1 convertedHead).trans (tail r1 js r' convertedTail)
  case fieldsNil =>
    intro o r props req r' converted
    rw [(convertFields_nil.1 converted).2.2]
    exact Grows.refl r
  case fieldsCons =>
    intro o k n rest r head tail props req r' converted
    obtain ⟨j, r1, props', req', convertedHead, convertedTail, -⟩ :=
      convertFields_cons_eq_ok.1 converted
    exact (head j r1 convertedHead).trans (tail r1 props' req' r' convertedTail)

theorem convert_grows {o : Bodies} {n : Schema} (h : convert c o n r = .ok (v, r')) : r.Grows r' :=
  convert_grows_all.1 o n r v r' h

theorem convertAll_grows {o : Bodies} {ns : List Schema} {items : List Json}
    (h : convertAll c o ns r = .ok (items, r')) : r.Grows r' :=
  convert_grows_all.2.1 o ns r items r' h

theorem convertFields_grows {o : Bodies} {fs : List (String × Schema)} {props : Fields}
    {req : List String} (h : convertFields c o fs r = .ok (props, req, r')) : r.Grows r' :=
  convert_grows_all.2.2 o fs r props req r' h

/-! ## The invariant -/

open Registry in
theorem convert_valid_all :
    (∀ o n r v r', r.Valid → convert c o n r = .ok (v, r') → r'.Valid) ∧
    (∀ o ns r items r', r.Valid → convertAll c o ns r = .ok (items, r') → r'.Valid) ∧
    (∀ o fs r props req r', r.Valid → convertFields c o fs r = .ok (props, req, r') → r'.Valid) := by
  refine convert.mutual_induct
    (fun o n r => ∀ v r', r.Valid → convert c o n r = .ok (v, r') → r'.Valid)
    (fun o ns r => ∀ items r', r.Valid → convertAll c o ns r = .ok (items, r') → r'.Valid)
    (fun o fs r => ∀ props req r', r.Valid → convertFields c o fs r = .ok (props, req, r') → r'.Valid)
    ?primitive ?object ?array ?tuple ?union ?enum ?record ?hit ?miss ?other ?allNil ?allCons
    ?fieldsNil ?fieldsCons
  case primitive =>
    intro o p r v r' valid converted
    have stored : r' = (primitiveSchema c p r).2 := by
      simp only [convert_primitive, Except.ok.injEq] at converted
      rw [converted]
    rcases primitiveSchema_snd p with same | any
    · rw [stored, same]; exact valid
    · rw [stored, any]; exact valid.anyType
  case object =>
    intro o fs r fields v r' valid converted
    obtain ⟨props, req, convertedFields, -⟩ := convert_object_eq_ok.1 converted
    exact fields props req r' valid convertedFields
  case array =>
    intro o el r element v r' valid converted
    obtain ⟨items, convertedItems, -⟩ := convert_array_eq_ok.1 converted
    exact element items r' valid convertedItems
  case tuple =>
    intro o els r elements v r' valid converted
    obtain ⟨name, r1, items, r2, reserved, convertedItems, -, rfl⟩ := convert_tuple_eq_ok.1 converted
    obtain ⟨valid1, member, generated⟩ := valid.of_reserve reserved (by simp)
    exact (elements r1 items r2 valid1 convertedItems).fill
      ((convertAll_grows convertedItems).keys member) generated
  case union =>
    intro o opts r options v r' valid converted
    obtain ⟨name, r1, items, r2, reserved, convertedItems, -, rfl⟩ := convert_union_eq_ok.1 converted
    obtain ⟨valid1, member, generated⟩ := valid.of_reserve reserved (by simp)
    exact (options r1 items r2 valid1 convertedItems).fill
      ((convertAll_grows convertedItems).keys member) generated
  case enum =>
    intro o vals r v r' valid converted
    simp only [convert_enum, Except.ok.injEq, Prod.mk.injEq] at converted
    rw [← converted.2]
    exact valid
  case record =>
    intro o n r inner v r' valid converted
    exact inner v r' valid (by simpa using converted)
  case hit =>
    intro o id r name found v r' valid converted
    rcases convert_ref_eq_ok.1 converted with ⟨_, -, -, rfl⟩ | ⟨missing, -⟩
    · exact valid
    · rw [found] at missing; cases missing
  case miss =>
    intro o id r missing body v r' valid converted
    rcases convert_ref_eq_ok.1 converted with ⟨_, found, -⟩ | ⟨-, name, r1, b, r2, reserved, expanded, -, rfl⟩
    · rw [found] at missing; cases missing
    · obtain ⟨valid1, member, generated⟩ := valid.of_reserve reserved (by simp)
      have filled : r2.Valid ∧ r1.Grows r2 := by
        split at expanded
        · next b' rest taken =>
          exact ⟨body r1 b' rest taken b r2 valid1 expanded, convert_grows expanded⟩
        · simp only [Except.ok.injEq, Prod.mk.injEq] at expanded
          rw [← expanded.2]
          exact ⟨valid1, Grows.refl r1⟩
      exact filled.1.fill (filled.2.keys member) generated
  case other =>
    intro o k r v r' valid converted
    simp only [convert_other, Except.ok.injEq, Prod.mk.injEq] at converted
    rw [← converted.2]
    exact valid
  case allNil =>
    intro o r items r' valid converted
    rw [(convertAll_nil.1 converted).2]
    exact valid
  case allCons =>
    intro o n rest r head tail items r' valid converted
    obtain ⟨j, r1, js, convertedHead, convertedTail, -⟩ := convertAll_cons_eq_ok.1 converted
    exact tail r1 js r' (head j r1 valid convertedHead) convertedTail
  case fieldsNil =>
    intro o r props req r' valid converted
    rw [(convertFields_nil.1 converted).2.2]
    exact valid
  case fieldsCons =>
    intro o k n rest r head tail props req r' valid converted
    obtain ⟨j, r1, props', req', convertedHead, convertedTail, -⟩ :=
      convertFields_cons_eq_ok.1 converted
    exact tail r1 props' req' r' (head j r1 valid convertedHead) convertedTail

theorem convert_valid {o : Bodies} {n : Schema} (valid : r.Valid) (h : convert c o n r = .ok (v, r')) :
    r'.Valid :=
  convert_valid_all.1 o n r v r' valid h

theorem convertFields_valid {o : Bodies} {fs : List (String × Schema)} {props : Fields}
    {req : List String} (valid : r.Valid) (h : convertFields c o fs r = .ok (props, req, r')) :
    r'.Valid :=
  convert_valid_all.2.2 o fs r props req r' valid h

end OpenApiGen
