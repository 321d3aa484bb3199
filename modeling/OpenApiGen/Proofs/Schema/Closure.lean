import OpenApiGen.Proofs.Schema.Convert
import OpenApiGen.Proofs.Json.References

/-!
# Conversions leave no dangling reference

A conversion from a registry closed under references (`Registry.RefClosed`) ends in one, names only
stored components in its fragment, and fills every name it reserves (`convert_closes`).
-/

namespace OpenApiGen

namespace Registry

/-- The name still holds the placeholder that reserving it wrote. -/
def Placeholder (r : Registry) (x : String) : Prop := r.get? x = some (.object [])

/-- Every name the registry remembers or points at is stored. -/
structure RefClosed (r : Registry) : Prop where
  memo : ∀ i x, r.lookup (.definition i) = some x → x ∈ r.schemas.keys
  anyType : r.lookup .anyType ≠ none → anyTypeName ∈ r.schemas.keys
  refs : ∀ x v, r.get? x = some v → ∀ y ∈ v.refs, y ∈ r.schemas.keys

variable {r r1 r2 : Registry} {key : Option ComponentKey} {name : String} {d : Json}

theorem refClosed_new (first : UInt32) : (new first).RefClosed where
  memo := by simp [new, lookup]
  anyType := by simp [new, lookup]
  refs := by simp [new, get?]

theorem mem_keys_register_self : name ∈ (r.register key name d).schemas.keys := by
  simp

theorem keys_sub_register : r.schemas.keys ⊆ (r.register key name d).schemas.keys :=
  fun _ member => by simp [member]

theorem RefClosed.register (closed : r.RefClosed) (ownName : key = some .anyType → name = anyTypeName)
    (stored : ∀ y ∈ d.refs, y ∈ (r.register key name d).schemas.keys) :
    (r.register key name d).RefClosed where
  memo i x found := by
    rw [lookup_register] at found
    split at found
    · cases found
      exact mem_keys_register_self
    · exact keys_sub_register (closed.memo i x found)
  anyType remembered := by
    rw [lookup_register] at remembered
    split at remembered
    · next same => rw [← ownName same]; exact mem_keys_register_self
    · exact keys_sub_register (closed.anyType remembered)
  refs x v found y mentioned := by
    rw [get?_register] at found
    split at found
    · cases found
      exact stored y mentioned
    · exact keys_sub_register (closed.refs x v found y mentioned)

theorem refClosed_anyType (closed : r.RefClosed) : r.anyType.2.RefClosed := by
  rw [anyType_eq]
  split
  · have noRefs : anyTypeSchema.refs = [] := by
      simp [anyTypeSchema, Json.refs_object, referencedName?, Json.get?, Fields.get?, Json.refsFields,
        Json.refsAll]
    show (r.register (some .anyType) anyTypeName anyTypeSchema).RefClosed
    exact closed.register (fun _ => rfl) (by simp [noRefs])
  · exact closed

theorem anyTypeName_mem_anyType (closed : r.RefClosed) : anyTypeName ∈ r.anyType.2.schemas.keys := by
  rw [anyType_eq]
  split
  · exact mem_keys_register_self
  · next remembered => exact closed.anyType remembered

theorem RefClosed.reserve (closed : r.RefClosed) (reserved : r.reserve key = .ok (name, r1))
    (notAny : key ≠ some .anyType) :
    r1.RefClosed ∧ r1.Placeholder name ∧ ∀ x, x ≠ name → r1.get? x = r.get? x := by
  obtain ⟨-, -, rfl⟩ := reserve_eq_ok.1 reserved
  refine ⟨?_, by simp [Placeholder, get?_register], fun x other => by simp [get?_register, other]; rfl⟩
  have bumped : ({ r with next := r.next + 1 } : Registry).RefClosed :=
    ⟨closed.memo, closed.anyType, closed.refs⟩
  exact bumped.register (fun same => absurd same notAny)
    (by simp [Json.refs_object, referencedName?, Json.get?, Fields.get?, Json.refsFields])

end Registry

open Registry

variable {c : Category} {r r1 r2 r' : Registry} {out out' : List String}

/-- What a conversion from `r` to `r'` whose fragments mention `out` keeps: `r'` is closed, every
name in `out` is stored in `r'`, and every placeholder of `r'` was one of `r`. -/
structure Closes (r r' : Registry) (out : List String) : Prop where
  closed : r'.RefClosed
  stored : ∀ y ∈ out, y ∈ r'.schemas.keys
  placeholders : ∀ x, r'.Placeholder x → r.Placeholder x

theorem Closes.refl (closed : r.RefClosed) (stored : ∀ y ∈ out, y ∈ r.schemas.keys) :
    Closes r r out :=
  ⟨closed, stored, fun _ => id⟩

theorem Closes.trans (first : Closes r r1 out) (second : Closes r1 r2 out') (grows : r1.Grows r2) :
    Closes r r2 (out ++ out') where
  closed := second.closed
  stored y mentioned := by
    rcases List.mem_append.1 mentioned with early | late
    · exact grows.keys (first.stored y early)
    · exact second.stored y late
  placeholders x held := first.placeholders x (second.placeholders x held)

theorem Closes.of_eq (closes : Closes r r' out) (same : out' = out) : Closes r r' out' :=
  same ▸ closes

theorem Closes.hoist {key : Option ComponentKey} {name : String} {d : Json} (closed : r.RefClosed)
    (reserved : r.reserve key = .ok (name, r1)) (notAny : key ≠ some .anyType)
    (inner : Closes r1 r2 d.refs) (filled : d ≠ .object []) :
    Closes r (r2.register none name d) [name] := by
  obtain ⟨-, placeholder, others⟩ := closed.reserve reserved notAny
  refine ⟨inner.closed.register (fun same => by cases same)
      (fun y mentioned => keys_sub_register (inner.stored y mentioned)), ?_, ?_⟩
  · simp
  · intro x held
    have other : x ≠ name := by
      intro same
      subst same
      simp [Placeholder, get?_register] at held
      exact filled held
    have before : r2.Placeholder x := by
      simpa [Placeholder, get?_register, other] using held
    have reservedBefore := inner.placeholders x before
    simpa [Placeholder, others x other] using reservedBefore

theorem refs_typeOnly (k : String) : (typeOnly k).refs = [] := by
  simp [typeOnly, Json.refs_object, referencedName?, Json.get?, Fields.get?, Json.refsFields]

theorem referencedName?_of_objects {fs : Fields} (objects : ∀ p ∈ fs, ∃ gs, p.2 = .object gs) :
    referencedName? (.object fs) = none := by
  unfold referencedName?
  cases found : Json.get? (.object fs) "$ref" with
  | none => rfl
  | some v =>
    obtain ⟨p, member, -, rfl⟩ : ∃ p ∈ fs, p.1 = "$ref" ∧ p.2 = v := by
      simp only [Json.get?, Fields.get?, Option.map_eq_some_iff] at found
      obtain ⟨p, found, rfl⟩ := found
      exact ⟨p, List.mem_of_find?_eq_some found, by simpa using List.find?_some found, rfl⟩
    obtain ⟨gs, same⟩ := objects p member
    simp [same]

theorem refs_objectSchema {props : Fields} (objects : ∀ p ∈ props, ∃ gs, p.2 = .object gs)
    (req : List String) : (objectSchema props req).refs = Json.refsFields props := by
  have inner : (Json.object props).refs = Json.refsFields props := by
    simp [Json.refs_object, referencedName?_of_objects objects]
  simp [objectSchema, Json.refs_object, referencedName?, Json.get?, Fields.get?, Json.refsFields, inner]

theorem anyType_closes (closed : r.RefClosed) : Closes r r.anyType.2 r.anyType.1.refs where
  closed := refClosed_anyType closed
  stored y mentioned := by
    have fragment : r.anyType.1 = reference anyTypeName := by rw [anyType_eq]
    simp only [fragment, refs_reference, List.mem_singleton] at mentioned
    rw [mentioned]
    exact anyTypeName_mem_anyType closed
  placeholders x held := by
    rw [anyType_eq] at held
    split at held
    · simp only [Placeholder, get?_register] at held
      split at held
      · simp [anyTypeSchema] at held
      · exact held
    · exact held

theorem primitiveSchema_closes (closed : r.RefClosed) (p : Primitive) :
    Closes r (primitiveSchema c p r).2 (primitiveSchema c p r).1.refs := by
  cases p with
  | any => exact anyType_closes closed
  | unknown => exact anyType_closes closed
  | _ =>
    refine Closes.refl closed ?_
    cases c <;> simp [primitiveSchema, annotated, typeOnly, Json.refs_object, referencedName?,
      Json.get?, Fields.get?, Json.refsFields]

theorem convertFields_objects {o : Bodies} : ∀ (fs : List (String × Schema)) {r r' : Registry}
    {props : Fields} {req : List String}, convertFields c o fs r = .ok (props, req, r') →
    ∀ p ∈ props, ∃ gs, p.2 = .object gs
  | [], _, _, _, _, converted => by
    rw [(convertFields_nil.1 converted).1]
    simp
  | (_, n) :: rest, _, _, _, _, converted => by
    obtain ⟨j, r1, props', req', head, tail, rfl, -⟩ := convertFields_cons_eq_ok.1 converted
    intro p member
    rcases List.mem_cons.1 member with rfl | later
    · obtain ⟨f, fs, same⟩ := convert_nonempty n head
      exact ⟨f :: fs, same⟩
    · exact convertFields_objects rest tail p later

theorem convert_closes_all :
    (∀ o n r v r', r.RefClosed → convert c o n r = .ok (v, r') → Closes r r' v.refs) ∧
    (∀ o ns r items r', r.RefClosed → convertAll c o ns r = .ok (items, r') →
      Closes r r' (Json.refsAll items)) ∧
    (∀ o fs r props req r', r.RefClosed → convertFields c o fs r = .ok (props, req, r') →
      Closes r r' (Json.refsFields props)) := by
  refine convert.mutual_induct
    (fun o n r => ∀ v r', r.RefClosed → convert c o n r = .ok (v, r') → Closes r r' v.refs)
    (fun o ns r => ∀ items r', r.RefClosed → convertAll c o ns r = .ok (items, r') →
      Closes r r' (Json.refsAll items))
    (fun o fs r => ∀ props req r', r.RefClosed → convertFields c o fs r = .ok (props, req, r') →
      Closes r r' (Json.refsFields props))
    ?primitive ?object ?array ?tuple ?union ?enum ?record ?hit ?miss ?other ?allNil ?allCons
    ?fieldsNil ?fieldsCons
  case primitive =>
    intro o p r v r' closed converted
    have closes := primitiveSchema_closes (c := c) closed p
    simp only [convert_primitive, Except.ok.injEq] at converted
    rwa [converted] at closes
  case object =>
    intro o fs r fields v r' closed converted
    obtain ⟨props, req, convertedFields, rfl⟩ := convert_object_eq_ok.1 converted
    exact (fields props req r' closed convertedFields).of_eq
      (refs_objectSchema (convertFields_objects fs convertedFields) req)
  case array =>
    intro o el r element v r' closed converted
    obtain ⟨items, convertedItems, rfl⟩ := convert_array_eq_ok.1 converted
    exact (element items r' closed convertedItems).of_eq
      (by simp [Json.refs_object, referencedName?, Json.get?, Fields.get?, Json.refsFields])
  case tuple =>
    intro o els r elements v r' closed converted
    obtain ⟨name, r1, items, r2, reserved, convertedItems, rfl, rfl⟩ := convert_tuple_eq_ok.1 converted
    have inner := elements r1 items r2 (closed.reserve reserved (by simp)).1 convertedItems
    exact (Closes.hoist closed reserved (by simp)
      (inner.of_eq (by simp [Json.refs_object, referencedName?, Json.get?, Fields.get?, Json.refsFields]))
      (by simp)).of_eq (refs_reference name)
  case union =>
    intro o opts r options v r' closed converted
    obtain ⟨name, r1, items, r2, reserved, convertedItems, rfl, rfl⟩ := convert_union_eq_ok.1 converted
    have inner := options r1 items r2 (closed.reserve reserved (by simp)).1 convertedItems
    exact (Closes.hoist closed reserved (by simp)
      (inner.of_eq (by simp [Json.refs_object, referencedName?, Json.get?, Fields.get?, Json.refsFields]))
      (by simp)).of_eq (refs_reference name)
  case enum =>
    intro o vals r v r' closed converted
    simp only [convert_enum, Except.ok.injEq, Prod.mk.injEq] at converted
    obtain ⟨rfl, rfl⟩ := converted
    exact Closes.refl closed
      (by simp [Json.refs_object, referencedName?, Json.get?, Fields.get?, Json.refsFields])
  case record =>
    intro o n r inner v r' closed converted
    exact inner v r' closed (by simpa using converted)
  case hit =>
    intro o id r name found v r' closed converted
    rcases convert_ref_eq_ok.1 converted with ⟨name', found', rfl, rfl⟩ | ⟨missing, -⟩
    · rw [found] at found'
      cases found'
      exact Closes.refl closed (by simpa using closed.memo id name found)
    · rw [found] at missing
      cases missing
  case miss =>
    intro o id r missing body v r' closed converted
    rcases convert_ref_eq_ok.1 converted with ⟨_, found, -⟩ |
        ⟨-, name, r1, b, r2, reserved, expanded, rfl, rfl⟩
    · rw [found] at missing
      cases missing
    · have reservedClosed := (closed.reserve reserved (by simp)).1
      -- the body is converted when it is still open on this branch, else it is `{"type": "ref"}`
      have inner : Closes r1 r2 b.refs ∧ b ≠ .object [] := by
        split at expanded
        · next b' rest taken =>
          obtain ⟨f, fs, rfl⟩ := convert_nonempty b' expanded
          exact ⟨body r1 b' rest taken _ r2 reservedClosed expanded, by simp⟩
        · simp only [Except.ok.injEq, Prod.mk.injEq] at expanded
          obtain ⟨rfl, rfl⟩ := expanded
          exact ⟨Closes.refl reservedClosed (by simp [refs_typeOnly]), by simp [typeOnly]⟩
      exact (Closes.hoist closed reserved (by simp) inner.1 inner.2).of_eq (refs_reference name)
  case other =>
    intro o k r v r' closed converted
    simp only [convert_other, Except.ok.injEq, Prod.mk.injEq] at converted
    obtain ⟨rfl, rfl⟩ := converted
    exact Closes.refl closed (by simp [refs_typeOnly])
  case allNil =>
    intro o r items r' closed converted
    obtain ⟨rfl, rfl⟩ := convertAll_nil.1 converted
    exact Closes.refl closed (by simp)
  case allCons =>
    intro o n rest r head tail items r' closed converted
    obtain ⟨j, r1, js, convertedHead, convertedTail, rfl⟩ := convertAll_cons_eq_ok.1 converted
    have first := head j r1 closed convertedHead
    exact (first.trans (tail r1 js r' first.closed convertedTail) (convertAll_grows convertedTail)).of_eq
      (by simp [Json.refsAll])
  case fieldsNil =>
    intro o r props req r' closed converted
    obtain ⟨rfl, rfl, rfl⟩ := convertFields_nil.1 converted
    exact Closes.refl closed (by simp)
  case fieldsCons =>
    intro o k n rest r head tail props req r' closed converted
    obtain ⟨j, r1, props', req', convertedHead, convertedTail, rfl, -⟩ :=
      convertFields_cons_eq_ok.1 converted
    have first := head j r1 closed convertedHead
    exact (first.trans (tail r1 props' req' r' first.closed convertedTail)
      (convertFields_grows convertedTail)).of_eq (by simp [Json.refsFields])

theorem convert_closes {o : Bodies} {n : Schema} {v : Json} (closed : r.RefClosed)
    (h : convert c o n r = .ok (v, r')) : Closes r r' v.refs :=
  convert_closes_all.1 o n r v r' closed h

/-! ## Between routes -/

/-- A closed registry with no placeholder: what the registry is between two routes. -/
structure Registry.Sealed (r : Registry) : Prop where
  closed : r.RefClosed
  filled : ∀ x, ¬ r.Placeholder x

theorem sealed_new (first : UInt32) : (Registry.new first).Sealed :=
  ⟨refClosed_new first, fun x => by simp [Placeholder, Registry.new, Registry.get?]⟩

theorem Closes.sealed (closes : Closes r r' out) (sealed : r.Sealed) : r'.Sealed :=
  ⟨closes.closed, fun x held => sealed.filled x (closes.placeholders x held)⟩

theorem Registry.Sealed.get?_ne (sealed : r.Sealed) {x : String} {v : Json} (found : r.get? x = some v) :
    v ≠ .object [] := by
  rintro rfl
  exact sealed.filled x found

end OpenApiGen
