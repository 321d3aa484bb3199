import Mathlib.Data.Set.Function
import OpenApiGen.Proofs.Schema.Termination

/-!
# Definition identities up to renaming

Conversion only compares identities, so converting renamed trees from registries and open bodies
alike up to a `Renaming` gives the same fragments and alike registries (`convert_renames_all`).
-/

namespace OpenApiGen

/-- A renaming of definition identities, one-to-one on its domain, from identities below one
bound to identities below another. -/
structure Renaming where
  map : DefinitionId → DefinitionId
  domain : Set DefinitionId
  sourceBound : DefinitionId
  targetBound : DefinitionId
  injOn : Set.InjOn map domain
  bounded : ∀ i ∈ domain, i < sourceBound ∧ map i < targetBound

namespace Schema

mutual
def rename (f : DefinitionId → DefinitionId) : Schema → Schema
  | .primitive p => .primitive p
  | .object fs => .object (renameFields f fs)
  | .array el => .array (rename f el)
  | .tuple els => .tuple (renameAll f els)
  | .union opts => .union (renameAll f opts)
  | .enum vals => .enum vals
  | .record v => .record (rename f v)
  | .ref id => .ref (f id)
  | .other k => .other k

def renameAll (f : DefinitionId → DefinitionId) : List Schema → List Schema
  | [] => []
  | n :: rest => rename f n :: renameAll f rest

def renameFields (f : DefinitionId → DefinitionId) : List (String × Schema) → List (String × Schema)
  | [] => []
  | (k, n) :: rest => (k, rename f n) :: renameFields f rest
end

variable {f : DefinitionId → DefinitionId}

theorem renameAll_eq_map (ns : List Schema) : renameAll f ns = ns.map (rename f) := by
  induction ns with
  | nil => rfl
  | cons n rest ih => simp [renameAll, ih]

theorem renameFields_eq_map (fs : List (String × Schema)) :
    renameFields f fs = fs.map (fun p => (p.1, rename f p.2)) := by
  induction fs with
  | nil => rfl
  | cons p rest ih => simp [renameFields, ih]

@[simp] theorem isPrimitive_rename (p : Primitive) (n : Schema) :
    (n.rename f).isPrimitive p = n.isPrimitive p := by
  cases n <;> rfl

@[simp] theorem isRequired_rename (n : Schema) : (n.rename f).isRequired = n.isRequired := by
  cases n with
  | union opts => simp [rename, isRequired, renameAll_eq_map, List.any_map, Function.comp_def]
  | _ => rfl

end Schema

theorem inlineDescription_rename {f : DefinitionId → DefinitionId} (n : Schema) :
    inlineDescription (n.rename f) = inlineDescription n := by
  cases n with
  | object fs =>
    simp only [Schema.rename, inlineDescription, Schema.renameFields_eq_map, List.filterMap_map]
    congr
    all_goals
      funext p
      obtain ⟨k, s⟩ := p
      cases s <;> rfl
  | _ => rfl

/-! ## Outcomes that agree -/

inductive Except.Agree {ε α β : Type} (R : α → β → Prop) : Except ε α → Except ε β → Prop
  | error (e : ε) : Except.Agree R (.error e) (.error e)
  | ok {a : α} {b : β} : R a b → Except.Agree R (.ok a) (.ok b)

namespace Except.Agree

variable {ε α β γ δ : Type} {R : α → β → Prop} {S : γ → δ → Prop} {x : Except ε α} {y : Except ε β}

theorem bind {f : α → Except ε γ} {g : β → Except ε δ} (first : Agree R x y)
    (rest : ∀ a b, R a b → Agree S (f a) (g b)) : Agree S (x >>= f) (y >>= g) := by
  cases first with
  | error e => exact .error e
  | ok related => exact rest _ _ related

theorem map {f : α → γ} {g : β → δ} (h : Agree R x y) (related : ∀ a b, R a b → S (f a) (g b)) :
    Agree S (f <$> x) (g <$> y) := by
  cases h with
  | error e => exact .error e
  | ok r => exact .ok (related _ _ r)

theorem error_iff (h : Agree R x y) (e : ε) : x = .error e ↔ y = .error e := by
  cases h <;> simp

end Except.Agree

/-! ## Registries alike up to a renaming -/

namespace Registry

/-- Two registries that differ only in the identities their memo remembers definitions by: the
same names and schemas, the same `anyType` entry, the name of `i` in one is the name of its image
in the other, and neither remembers an identity at or past its bound. -/
structure Renames (ρ : Renaming) (a b : Registry) : Prop where
  first : b.first = a.first
  next : b.next = a.next
  schemas : b.schemas = a.schemas
  anyType : b.lookup .anyType = a.lookup .anyType
  memo : ∀ i ∈ ρ.domain, b.lookup (.definition (ρ.map i)) = a.lookup (.definition i)
  freshSource : ∀ i, ρ.sourceBound ≤ i → a.lookup (.definition i) = none
  freshTarget : ∀ i, ρ.targetBound ≤ i → b.lookup (.definition i) = none

end Registry

inductive Renaming.Keys (ρ : Renaming) : Option ComponentKey → Option ComponentKey → Prop
  | none : Renaming.Keys ρ none none
  | anyType : Renaming.Keys ρ (some .anyType) (some .anyType)
  | definition {i : DefinitionId} : i ∈ ρ.domain →
      Renaming.Keys ρ (some (.definition i)) (some (.definition (ρ.map i)))

def Renaming.Same {α : Type} (ρ : Renaming) (p q : α × Registry) : Prop :=
  p.1 = q.1 ∧ p.2.Renames ρ q.2

theorem Renaming.Keys.definition_iff {ρ : Renaming} {ka kb : Option ComponentKey} (keys : ρ.Keys ka kb)
    {i : DefinitionId} (hi : i ∈ ρ.domain) :
    kb = some (.definition (ρ.map i)) ↔ ka = some (.definition i) := by
  cases keys with
  | none => simp
  | anyType => simp
  | @definition j hj =>
    simp only [Option.some.injEq, ComponentKey.definition.injEq]
    exact ⟨fun e => ρ.injOn hj hi e, fun e => e ▸ rfl⟩

namespace Registry

variable {ρ : Renaming} {a b : Registry}

theorem Renames.register (h : a.Renames ρ b) {ka kb : Option ComponentKey} (keys : ρ.Keys ka kb)
    (name : String) (j : Json) : (a.register ka name j).Renames ρ (b.register kb name j) where
  first := h.first
  next := h.next
  schemas := by simp [h.schemas]
  anyType := by
    rw [lookup_register, lookup_register, h.anyType]
    cases keys <;> simp
  memo i hi := by
    rw [lookup_register, lookup_register, h.memo i hi]
    exact if_congr (keys.definition_iff hi) rfl rfl
  freshSource i hi := by
    rw [lookup_register, h.freshSource i hi]
    cases keys with
    | @definition j hj =>
      have differ : j ≠ i := (Nat.lt_of_lt_of_le (ρ.bounded j hj).1 hi).ne
      simp [differ]
    | _ => simp
  freshTarget i hi := by
    rw [lookup_register, h.freshTarget i hi]
    cases keys with
    | @definition j hj =>
      have differ : ρ.map j ≠ i := (Nat.lt_of_lt_of_le (ρ.bounded j hj).2 hi).ne
      simp [differ]
    | _ => simp

theorem Renames.allocate (h : a.Renames ρ b) : Except.Agree ρ.Same a.allocate b.allocate := by
  unfold Registry.allocate
  rw [h.next]
  split
  · exact .error _
  · exact .ok ⟨rfl, { h with next := rfl }⟩

theorem Renames.reserve (h : a.Renames ρ b) {ka kb : Option ComponentKey} (keys : ρ.Keys ka kb) :
    Except.Agree ρ.Same (a.reserve ka) (b.reserve kb) := by
  unfold Registry.reserve
  refine h.allocate.bind fun p q same => ?_
  obtain ⟨name, a1⟩ := p
  obtain ⟨name', b1⟩ := q
  obtain ⟨rfl, renames⟩ := same
  exact .ok ⟨rfl, renames.register keys name _⟩

theorem Renames.same_anyType (h : a.Renames ρ b) : ρ.Same a.anyType b.anyType := by
  rw [anyType_eq, anyType_eq, h.anyType]
  refine ⟨rfl, ?_⟩
  split
  · exact h.register .anyType _ _
  · exact h

end Registry

/-! ## Open bodies alike up to a renaming -/

namespace Bodies

variable {bs rest : Bodies} {id : DefinitionId} {b : Schema}

theorem take?_eq_none_iff : bs.take? id = none ↔ bs.lookup id = none := by
  constructor
  · intro absent
    cases found : bs.lookup id with
    | none => rfl
    | some b =>
      obtain ⟨rest, taken⟩ := take?_of_lookup found
      rw [taken] at absent
      cases absent
  · intro missing
    cases taken : bs.take? id with
    | none => rfl
    | some p =>
      rw [(take?_eq_some taken).1] at missing
      cases missing

theorem lookup_take?_self (nodup : (bs.map Prod.fst).Nodup) (taken : bs.take? id = some (b, rest)) :
    rest.lookup id = none := by
  have gone : id ∉ rest.map Prod.fst := by
    rw [keys_take? taken]
    exact nodup.not_mem_erase
  simp only [List.lookup_eq_none_iff, bne_iff_ne, ne_eq]
  intro p mem same
  exact gone (List.mem_map.2 ⟨p, mem, same.symm⟩)

theorem nodup_take? (nodup : (bs.map Prod.fst).Nodup) (taken : bs.take? id = some (b, rest)) :
    (rest.map Prod.fst).Nodup := by
  rw [keys_take? taken]
  exact nodup.erase id

-- Each side holds an identity once, and every body refers only into the renaming's domain.
structure Renames (ρ : Renaming) (a b : Bodies) : Prop where
  nodupSource : (a.map Prod.fst).Nodup
  nodupTarget : (b.map Prod.fst).Nodup
  lookup : ∀ i ∈ ρ.domain, b.lookup (ρ.map i) = (a.lookup i).map (Schema.rename ρ.map)
  closed : ∀ i body, a.lookup i = some body → ∀ j ∈ body.refIds, j ∈ ρ.domain

variable {ρ : Renaming} {a b : Bodies}

theorem Renames.take (h : a.Renames ρ b) {i : DefinitionId} (hi : i ∈ ρ.domain) :
    Option.Rel (fun p q => q.1 = p.1.rename ρ.map ∧ p.2.Renames ρ q.2 ∧ ∀ j ∈ p.1.refIds, j ∈ ρ.domain)
      (a.take? i) (b.take? (ρ.map i)) := by
  cases taken : a.take? i with
  | none =>
    have missing : b.lookup (ρ.map i) = none := by
      rw [h.lookup i hi, take?_eq_none_iff.1 taken]
      rfl
    rw [take?_eq_none_iff.2 missing]
    exact .none
  | some p =>
    obtain ⟨body, rest⟩ := p
    obtain ⟨found, others⟩ := take?_eq_some taken
    have found' : b.lookup (ρ.map i) = some (body.rename ρ.map) := by
      rw [h.lookup i hi, found]
      rfl
    obtain ⟨rest', taken'⟩ := take?_of_lookup found'
    have others' := (take?_eq_some taken').2
    rw [taken']
    refine .some ⟨rfl, ⟨nodup_take? h.nodupSource taken, nodup_take? h.nodupTarget taken', ?_, ?_⟩,
      h.closed i body found⟩
    · intro j hj
      by_cases same : j = i
      · subst same
        rw [lookup_take?_self h.nodupTarget taken', lookup_take?_self h.nodupSource taken]
        rfl
      · rw [others' (ρ.map j) (fun e => same (ρ.injOn hj hi e)), others j same, h.lookup j hj]
    · intro j body' kept k hk
      by_cases same : j = i
      · subst same
        rw [lookup_take?_self h.nodupSource taken] at kept
        cases kept
      · rw [others j same] at kept
        exact h.closed j body' kept k hk

end Bodies

/-! ## Conversion up to a renaming -/

section Convert

variable {ρ : Renaming} {c : Category}

theorem primitiveSchema_same {a b : Registry} (h : a.Renames ρ b) (p : Primitive) :
    ρ.Same (primitiveSchema c p a) (primitiveSchema c p b) := by
  cases p with
  | any => exact h.same_anyType
  | unknown => exact h.same_anyType
  | _ => exact ⟨rfl, h⟩

theorem convert_renames_all (ρ : Renaming) (c : Category) :
    (∀ oA n rA, ∀ oB rB, oA.Renames ρ oB → (∀ j ∈ n.refIds, j ∈ ρ.domain) → rA.Renames ρ rB →
      Except.Agree ρ.Same (convert c oA n rA) (convert c oB (n.rename ρ.map) rB)) ∧
    (∀ oA ns rA, ∀ oB rB, oA.Renames ρ oB → (∀ j ∈ Schema.refIdsAll ns, j ∈ ρ.domain) →
      rA.Renames ρ rB →
      Except.Agree ρ.Same (convertAll c oA ns rA) (convertAll c oB (Schema.renameAll ρ.map ns) rB)) ∧
    (∀ oA fs rA, ∀ oB rB, oA.Renames ρ oB → (∀ j ∈ Schema.refIdsFields fs, j ∈ ρ.domain) →
      rA.Renames ρ rB →
      Except.Agree (fun p q => p.1 = q.1 ∧ ρ.Same p.2 q.2) (convertFields c oA fs rA)
        (convertFields c oB (Schema.renameFields ρ.map fs) rB)) := by
  refine convert.mutual_induct
    (fun oA n rA => ∀ oB rB, oA.Renames ρ oB → (∀ j ∈ n.refIds, j ∈ ρ.domain) → rA.Renames ρ rB →
      Except.Agree ρ.Same (convert c oA n rA) (convert c oB (n.rename ρ.map) rB))
    (fun oA ns rA => ∀ oB rB, oA.Renames ρ oB → (∀ j ∈ Schema.refIdsAll ns, j ∈ ρ.domain) →
      rA.Renames ρ rB →
      Except.Agree ρ.Same (convertAll c oA ns rA) (convertAll c oB (Schema.renameAll ρ.map ns) rB))
    (fun oA fs rA => ∀ oB rB, oA.Renames ρ oB → (∀ j ∈ Schema.refIdsFields fs, j ∈ ρ.domain) →
      rA.Renames ρ rB →
      Except.Agree (fun p q => p.1 = q.1 ∧ ρ.Same p.2 q.2) (convertFields c oA fs rA)
        (convertFields c oB (Schema.renameFields ρ.map fs) rB))
    ?primitive ?object ?array ?tuple ?union ?enum ?record ?hit ?miss ?other ?allNil ?allCons
    ?fieldsNil ?fieldsCons
  case primitive =>
    intro oA p rA oB rB _ _ rel
    rw [Schema.rename, convert_primitive, convert_primitive]
    exact .ok (primitiveSchema_same rel p)
  case object =>
    intro oA fs rA fields oB rB bodies closed rel
    rw [Schema.rename, convert, convert]
    refine (fields oB rB bodies closed rel).bind ?_
    rintro ⟨props, req, r1⟩ ⟨props', req', r1'⟩ ⟨rfl, rfl, rel1⟩
    exact .ok ⟨rfl, rel1⟩
  case array =>
    intro oA el rA element oB rB bodies closed rel
    rw [Schema.rename, convert, convert]
    refine (element oB rB bodies closed rel).bind ?_
    rintro ⟨items, r1⟩ ⟨items', r1'⟩ ⟨rfl, rel1⟩
    exact .ok ⟨rfl, rel1⟩
  case tuple | union =>
    -- both reserve an unkeyed name before converting their members
    intro oA ns rA members oB rB bodies closed rel
    rw [Schema.rename, convert, convert]
    refine (rel.reserve .none).bind ?_
    rintro ⟨name, r1⟩ ⟨name', r1'⟩ ⟨rfl, rel1⟩
    refine (members r1 oB r1' bodies closed rel1).bind ?_
    rintro ⟨items, r2⟩ ⟨items', r2'⟩ ⟨rfl, rel2⟩
    exact .ok ⟨rfl, rel2.register .none _ _⟩
  case enum =>
    intro oA vals rA oB rB _ _ rel
    rw [Schema.rename, convert_enum, convert_enum]
    exact .ok ⟨rfl, rel⟩
  case record =>
    intro oA n rA inner oB rB bodies closed rel
    rw [Schema.rename, convert_record, convert_record]
    exact inner oB rB bodies closed rel
  case hit =>
    intro oA i rA name found oB rB _ closed rel
    have hi : i ∈ ρ.domain := closed i (by simp [Schema.refIds])
    rw [Schema.rename, convert, convert, found, rel.memo i hi, found]
    exact .ok ⟨rfl, rel⟩
  case miss =>
    intro oA i rA missing body oB rB bodies closed rel
    have hi : i ∈ ρ.domain := closed i (by simp [Schema.refIds])
    have missing' : rB.lookup (.definition (ρ.map i)) = none := by rw [rel.memo i hi, missing]
    rw [Schema.rename, convert_ref_unremembered missing, convert_ref_unremembered missing']
    refine (rel.reserve (.definition hi)).bind ?_
    rintro ⟨name, r1⟩ ⟨name', r1'⟩ ⟨rfl, rel1⟩
    have taken := bodies.take hi
    generalize takenA : oA.take? i = tA at taken ⊢
    generalize oB.take? (ρ.map i) = tB at taken ⊢
    cases taken with
    | none => exact .ok ⟨rfl, rel1.register .none _ _⟩
    | @some p q same =>
      obtain ⟨bA, restA⟩ := p
      obtain ⟨bB, restB⟩ := q
      obtain ⟨renamed, restRel, closedBody⟩ := same
      subst renamed
      refine (body r1 bA restA takenA restB r1' restRel closedBody rel1).map ?_
      rintro ⟨j, r2⟩ ⟨j', r2'⟩ ⟨rfl, rel2⟩
      exact ⟨rfl, rel2.register .none _ _⟩
  case other =>
    intro oA k rA oB rB _ _ rel
    rw [Schema.rename, convert_other, convert_other]
    exact .ok ⟨rfl, rel⟩
  case allNil =>
    intro oA rA oB rB _ _ rel
    rw [Schema.renameAll, convertAll, convertAll]
    exact .ok ⟨rfl, rel⟩
  case allCons =>
    intro oA n rest rA head tail oB rB bodies closed rel
    simp only [Schema.refIdsAll, List.mem_append] at closed
    rw [Schema.renameAll, convertAll, convertAll]
    refine (head oB rB bodies (fun j hj => closed j (.inl hj)) rel).bind ?_
    rintro ⟨j, r1⟩ ⟨j', r1'⟩ ⟨rfl, rel1⟩
    refine (tail r1 oB r1' bodies (fun j hj => closed j (.inr hj)) rel1).bind ?_
    rintro ⟨js, r2⟩ ⟨js', r2'⟩ ⟨rfl, rel2⟩
    exact .ok ⟨rfl, rel2⟩
  case fieldsNil =>
    intro oA rA oB rB _ _ rel
    rw [Schema.renameFields, convertFields, convertFields]
    exact .ok ⟨rfl, rfl, rel⟩
  case fieldsCons =>
    intro oA k n rest rA head tail oB rB bodies closed rel
    simp only [Schema.refIdsFields, List.mem_append] at closed
    rw [Schema.renameFields, convertFields, convertFields]
    refine (head oB rB bodies (fun j hj => closed j (.inl hj)) rel).bind ?_
    rintro ⟨j, r1⟩ ⟨j', r1'⟩ ⟨rfl, rel1⟩
    refine (tail r1 oB r1' bodies (fun j hj => closed j (.inr hj)) rel1).bind ?_
    rintro ⟨props, req, r2⟩ ⟨props', req', r2'⟩ ⟨rfl, rfl, rel2⟩
    exact .ok ⟨rfl, by rw [Schema.isRequired_rename], rel2⟩

end Convert

/-! ## Routes up to a renaming -/

section Route

variable {ρ : Renaming} {c : Category} {oA oB : Bodies}

theorem resolveRoot_renames (bodies : oA.Renames ρ oB) (n : Schema) (closed : ∀ j ∈ n.refIds, j ∈ ρ.domain) :
    Option.Rel (fun m m' => m' = m.rename ρ.map ∧ ∀ j ∈ m.refIds, j ∈ ρ.domain)
      (resolveRoot oA n) (resolveRoot oB (n.rename ρ.map)) := by
  induction oA, n using resolveRoot.induct generalizing oB with
  | case1 o id b rest taken ih =>
    have hi : id ∈ ρ.domain := closed id (by simp [Schema.refIds])
    have rel := bodies.take hi
    generalize takenB : oB.take? (ρ.map id) = tB at rel
    rw [taken] at rel
    cases rel with
    | @some _ q same =>
      obtain ⟨bB, restB⟩ := q
      obtain ⟨rfl, restRel, closedBody⟩ := same
      rw [resolveRoot_ref_taken taken, Schema.rename, resolveRoot_ref_taken takenB]
      exact ih restRel closedBody
  | case2 o id absent =>
    have hi : id ∈ ρ.domain := closed id (by simp [Schema.refIds])
    have rel := bodies.take hi
    generalize takenB : oB.take? (ρ.map id) = tB at rel
    rw [absent] at rel
    cases rel with
    | none =>
      rw [resolveRoot_ref_absent absent, Schema.rename, resolveRoot_ref_absent takenB]
      exact .none
  | case3 o n notRef =>
    have renamedNotRef : ∀ id, n.rename ρ.map = .ref id → False := by
      intro id same
      cases n with
      | ref i => exact notRef i rfl
      | _ => simp [Schema.rename] at same
    rw [resolveRoot_of_not_ref notRef, resolveRoot_of_not_ref renamedNotRef]
    exact .some ⟨rfl, closed⟩

theorem fieldParameter_rename (location : Location) (name : String) (field : Schema) (converted : Json) :
    fieldParameter location name (field.rename ρ.map) converted =
      fieldParameter location name field converted := by
  simp [fieldParameter, inlineDescription_rename]

theorem fieldParameters_renames (bodies : oA.Renames ρ oB) (location : Location) :
    ∀ (fs : List (String × Schema)) (rA rB : Registry), (∀ j ∈ Schema.refIdsFields fs, j ∈ ρ.domain) →
      rA.Renames ρ rB →
      Except.Agree ρ.Same (fieldParameters c oA location fs rA)
        (fieldParameters c oB location (Schema.renameFields ρ.map fs) rB)
  | [], rA, rB, _, rel => .ok ⟨rfl, rel⟩
  | (name, field) :: rest, rA, rB, closed, rel => by
    simp only [Schema.refIdsFields, List.mem_append] at closed
    rw [Schema.renameFields, fieldParameters, fieldParameters]
    refine ((convert_renames_all ρ c).1 oA field rA oB rB bodies (fun j hj => closed j (.inl hj)) rel).bind ?_
    rintro ⟨j, r1⟩ ⟨j', r1'⟩ ⟨rfl, rel1⟩
    refine (fieldParameters_renames bodies location rest r1 r1' (fun j hj => closed j (.inr hj)) rel1).bind ?_
    rintro ⟨ps, r2⟩ ⟨ps', r2'⟩ ⟨rfl, rel2⟩
    exact .ok ⟨by rw [fieldParameter_rename], rel2⟩

theorem parameters_renames (bodies : oA.Renames ρ oB) (root : Schema)
    (closed : ∀ j ∈ root.refIds, j ∈ ρ.domain) {rA rB : Registry} (rel : rA.Renames ρ rB) :
    Except.Agree ρ.Same (parameters c oA root rA) (parameters c oB (root.rename ρ.map) rB) := by
  have resolved := resolveRoot_renames bodies root closed
  unfold parameters
  generalize resolveRoot oA root = mA at resolved ⊢
  generalize resolveRoot oB (root.rename ρ.map) = mB at resolved ⊢
  cases resolved with
  | none => exact .ok ⟨rfl, rel⟩
  | @some m _ same =>
    obtain ⟨rfl, closedRoot⟩ := same
    cases m with
    | object fs => exact fieldParameters_renames bodies _ fs rA rB closedRoot rel
    | union opts => exact .error _
    | _ => exact .ok ⟨rfl, rel⟩

theorem objectOptions_renames (bodies : oA.Renames ρ oB) :
    ∀ (opts : List Schema) (rA rB : Registry), (∀ j ∈ Schema.refIdsAll opts, j ∈ ρ.domain) →
      rA.Renames ρ rB →
      Except.Agree ρ.Same (objectOptions oA opts rA) (objectOptions oB (Schema.renameAll ρ.map opts) rB)
  | [], rA, rB, _, rel => .ok ⟨rfl, rel⟩
  | n :: rest, rA, rB, closed, rel => by
    simp only [Schema.refIdsAll, List.mem_append] at closed
    cases n with
    | object fs =>
      rw [Schema.renameAll, Schema.rename, objectOptions, objectOptions]
      refine ((convert_renames_all ρ .body).1 oA (.object fs) rA oB rB bodies
        (fun j hj => closed j (.inl hj)) rel).bind ?_
      rintro ⟨j, r1⟩ ⟨j', r1'⟩ ⟨rfl, rel1⟩
      refine (objectOptions_renames bodies rest r1 r1' (fun j hj => closed j (.inr hj)) rel1).bind ?_
      rintro ⟨js, r2⟩ ⟨js', r2'⟩ ⟨rfl, rel2⟩
      exact .ok ⟨rfl, rel2⟩
    | _ => exact .error _

theorem bodySchema_renames (bodies : oA.Renames ρ oB) (root : Schema)
    (closed : ∀ j ∈ root.refIds, j ∈ ρ.domain) {rA rB : Registry} (rel : rA.Renames ρ rB) :
    Except.Agree ρ.Same (bodySchema oA root rA) (bodySchema oB (root.rename ρ.map) rB) := by
  cases root with
  | union opts =>
    rw [Schema.rename, bodySchema, bodySchema]
    refine (objectOptions_renames bodies opts rA rB closed rel).bind ?_
    rintro ⟨js, r1⟩ ⟨js', r1'⟩ ⟨rfl, rel1⟩
    exact .ok ⟨rfl, rel1⟩
  | record v =>
    rw [Schema.rename, bodySchema, bodySchema]
    refine (rel.reserve .none).bind ?_
    rintro ⟨name, r1⟩ ⟨name', r1'⟩ ⟨rfl, rel1⟩
    refine ((convert_renames_all ρ .body).1 oA v r1 oB r1' bodies closed rel1).bind ?_
    rintro ⟨j, r2⟩ ⟨j', r2'⟩ ⟨rfl, rel2⟩
    exact .ok ⟨rfl, rel2.register .none _ _⟩
  | _ => exact (convert_renames_all ρ .body).1 oA _ rA oB rB bodies closed rel

theorem optionalParameters_renames (bodies : oA.Renames ρ oB) (root : Option Schema)
    (closed : ∀ n ∈ root, ∀ j ∈ n.refIds, j ∈ ρ.domain) {rA rB : Registry} (rel : rA.Renames ρ rB) :
    Except.Agree ρ.Same (optionalParameters c oA root rA)
      (optionalParameters c oB (root.map (Schema.rename ρ.map)) rB) := by
  cases root with
  | none => exact .ok ⟨rfl, rel⟩
  | some n => exact parameters_renames bodies n (closed n rfl) rel

theorem optionalBody_renames (bodies : oA.Renames ρ oB) (root : Option Schema)
    (closed : ∀ n ∈ root, ∀ j ∈ n.refIds, j ∈ ρ.domain) {rA rB : Registry} (rel : rA.Renames ρ rB) :
    Except.Agree ρ.Same (optionalBody oA root rA) (optionalBody oB (root.map (Schema.rename ρ.map)) rB) := by
  cases root with
  | none => exact .ok ⟨rfl, rel⟩
  | some n =>
    rw [Option.map_some, optionalBody, optionalBody]
    refine (bodySchema_renames bodies n (closed n rfl) rel).bind ?_
    rintro ⟨j, r1⟩ ⟨j', r1'⟩ ⟨rfl, rel1⟩
    exact .ok ⟨rfl, rel1⟩

def RouteInputs.rename (f : DefinitionId → DefinitionId) (inputs : RouteInputs) : RouteInputs :=
  ⟨inputs.params.map (Schema.rename f), inputs.body.map (Schema.rename f),
    inputs.query.map (Schema.rename f)⟩

def RouteInputs.Within (D : Set DefinitionId) (inputs : RouteInputs) : Prop :=
  ∀ root ∈ [inputs.params, inputs.body, inputs.query], ∀ n ∈ root, ∀ j ∈ n.refIds, j ∈ D

theorem assemble_renames (bodies : oA.Renames ρ oB) (inputs : RouteInputs)
    (closed : inputs.Within ρ.domain) (description : Option String) {rA rB : Registry}
    (rel : rA.Renames ρ rB) :
    Except.Agree ρ.Same (assemble oA inputs description rA)
      (assemble oB (inputs.rename ρ.map) description rB) := by
  unfold assemble
  refine (optionalParameters_renames bodies inputs.params (closed _ (by simp)) rel).bind ?_
  rintro ⟨ps, r1⟩ ⟨ps', r1'⟩ ⟨rfl, rel1⟩
  refine (optionalBody_renames bodies inputs.body (closed _ (by simp)) rel1).bind ?_
  rintro ⟨body, r2⟩ ⟨body', r2'⟩ ⟨rfl, rel2⟩
  refine (optionalParameters_renames bodies inputs.query (closed _ (by simp)) rel2).bind ?_
  rintro ⟨qs, r3⟩ ⟨qs', r3'⟩ ⟨rfl, rel3⟩
  exact .ok ⟨rfl, rel3⟩

theorem record_renames (bodies : oA.Renames ρ oB) (t : PathTable) (method : Method) (path : String)
    (inputs : RouteInputs) (closed : inputs.Within ρ.domain) (description : Option String)
    {rA rB : Registry} (rel : rA.Renames ρ rB) :
    Except.Agree ρ.Same (t.record rA oA method path inputs description)
      (t.record rB oB method path (inputs.rename ρ.map) description) := by
  unfold PathTable.record
  refine (assemble_renames bodies inputs closed description rel).bind ?_
  rintro ⟨op, r1⟩ ⟨op', r1'⟩ ⟨rfl, rel1⟩
  exact .ok ⟨rfl, rel1⟩

end Route

end OpenApiGen
