import OpenApiGen.Schema.Category
import OpenApiGen.Proofs.Json.References

/-!
# Schemas written out in place, and what a reference stands for

`inline c o n` writes every component of `n` in place; `Reaches` and `Bodies.Acyclic` describe the
references between definitions; `Resolves r v w` replaces the `$ref`s of `v` through `r`.
-/

namespace OpenApiGen

/-- A primitive's fragment: a bigint or date carries its note only in a body, and `any` and
`unknown` stand for the schema that admits any value. -/
def inlinePrimitive (c : Category) (p : Primitive) : Json :=
  match p with
  | .string | .number | .boolean => .object [("type", .string p.name)]
  | .bigint =>
    if c = .body then .object [("type", .string "number"), ("description", .string "Type: bigint")]
    else .object [("type", .string "number")]
  | .date =>
    if c = .body then .object [("type", .string "string"), ("description", .string "Type: date")]
    else .object [("type", .string "string")]
  | .undefined | .null | .void => .object [("type", .string p.name), ("example", .string p.name)]
  | .any | .unknown => anyTypeSchema

def requiredNames (fs : List (String × Schema)) : List Json :=
  (fs.filter (fun p => p.2.isRequired)).map (fun p => .string p.1)

mutual

/-- The fragment of `n` for category `c` with every component written out; `o` holds the bodies
still open on this branch, and a reference whose body is not open has no fragment (`null`). -/
def inline (c : Category) (o : Bodies) : Schema → Json
  | .primitive p => inlinePrimitive c p
  | .object fs =>
    .object [("type", .string "object"), ("properties", .object (inlineFields c o fs)),
      ("required", .array (requiredNames fs))]
  | .array el => .object [("type", .string "array"), ("items", inline c o el)]
  | .tuple els =>
    .object [("type", .string "array"), ("items", .object [("anyOf", .array (inlineAll c o els))])]
  | .union opts => .object [("anyOf", .array (inlineAll c o opts))]
  | .enum vals => .object [("type", .string "enum"), ("enum", .array (vals.map Literal.toJson))]
  | .record v => inline c o v
  | .ref id =>
    match _taken : o.take? id with
    | some (body, rest) => inline c rest body
    | none => .null
  | .other k => .object [("type", .string k)]
termination_by n => (o.length, sizeOf n)
decreasing_by
  all_goals first
    | (apply Prod.Lex.left; exact Bodies.take?_length _taken)
    | (apply Prod.Lex.right; simp_wf)

def inlineAll (c : Category) (o : Bodies) : List Schema → List Json
  | [] => []
  | n :: rest => inline c o n :: inlineAll c o rest
termination_by ns => (o.length, sizeOf ns)

def inlineFields (c : Category) (o : Bodies) : List (String × Schema) → Fields
  | [] => []
  | (k, n) :: rest => (k, inline c o n) :: inlineFields c o rest
termination_by fs => (o.length, sizeOf fs)

end

/-! ## Which definitions a node reaches -/

namespace Schema

mutual
def refIds : Schema → List DefinitionId
  | .object fs => refIdsFields fs
  | .array el => el.refIds
  | .tuple els => refIdsAll els
  | .union opts => refIdsAll opts
  | .record v => v.refIds
  | .ref id => [id]
  | _ => []

def refIdsAll : List Schema → List DefinitionId
  | [] => []
  | n :: rest => n.refIds ++ refIdsAll rest

def refIdsFields : List (String × Schema) → List DefinitionId
  | [] => []
  | (_, n) :: rest => n.refIds ++ refIdsFields rest
end

end Schema

/-- `n` refers to definition `j`, itself or through the bodies of the definitions it refers to. -/
inductive Reaches (bodies : Bodies) : Schema → DefinitionId → Prop where
  | direct {n : Schema} {j : DefinitionId} : j ∈ n.refIds → Reaches bodies n j
  | through {n b : Schema} {i j : DefinitionId} :
      i ∈ n.refIds → bodies.lookup i = some b → Reaches bodies b j → Reaches bodies n j

namespace Bodies

def Acyclic (bodies : Bodies) : Prop :=
  ∀ i b, bodies.lookup i = some b → ¬ Reaches bodies b i

/-- The open bodies `o` hold, for every definition that `n` reaches, its body in `bodies`. -/
def Covers (bodies o : Bodies) (n : Schema) : Prop :=
  ∀ j, Reaches bodies n j → ∃ b, o.lookup j = some b ∧ bodies.lookup j = some b

end Bodies

/-! ## Taking a body out of the open ones -/

namespace Bodies

variable {bs rest : Bodies} {id : DefinitionId} {b : Schema}

theorem take?_eq_some (taken : bs.take? id = some (b, rest)) :
    bs.lookup id = some b ∧ ∀ j, j ≠ id → rest.lookup j = bs.lookup j := by
  induction bs generalizing b rest with
  | nil => simp [take?] at taken
  | cons entry bs ih =>
    obtain ⟨i, body⟩ := entry
    simp only [take?] at taken
    split at taken
    · next same =>
      simp only [beq_iff_eq] at same
      simp only [Option.some.injEq, Prod.mk.injEq] at taken
      obtain ⟨rfl, rfl⟩ := taken
      subst same
      refine ⟨by simp, fun j other => ?_⟩
      have skip : (j == i) = false := beq_eq_false_iff_ne.2 other
      rw [List.lookup_cons, skip]
    · next differ =>
      split at taken
      · simp at taken
      · next found others found_eq =>
        simp only [Option.some.injEq, Prod.mk.injEq] at taken
        obtain ⟨rfl, rfl⟩ := taken
        obtain ⟨looked, kept⟩ := ih found_eq
        have other : (id == i) = false := beq_eq_false_iff_ne.2 (fun e => differ (by simp [e]))
        refine ⟨by rw [List.lookup_cons, other]; exact looked, fun j ne => ?_⟩
        by_cases here : j = i
        · subst here
          rw [List.lookup_cons_self, List.lookup_cons_self]
        · have skip : (j == i) = false := beq_eq_false_iff_ne.2 here
          rw [List.lookup_cons, List.lookup_cons, skip]
          exact kept j ne

theorem take?_of_lookup (found : bs.lookup id = some b) : ∃ rest, bs.take? id = some (b, rest) := by
  induction bs with
  | nil => simp at found
  | cons entry bs ih =>
    obtain ⟨i, body⟩ := entry
    by_cases same : i = id
    · subst same
      simp only [List.lookup_cons_self, Option.some.injEq] at found
      subst found
      exact ⟨bs, by simp [take?]⟩
    · have other : (id == i) = false := beq_eq_false_iff_ne.2 (Ne.symm same)
      rw [List.lookup_cons, other] at found
      obtain ⟨rest, taken⟩ := ih found
      have differ : (i == id) = false := beq_eq_false_iff_ne.2 same
      exact ⟨(i, body) :: rest, by rw [take?, differ]; simp [taken]⟩

end Bodies

/-! ## Reaching definitions -/

namespace Schema

variable {j : DefinitionId}

@[simp] theorem mem_refIdsAll {ns : List Schema} : j ∈ refIdsAll ns ↔ ∃ n ∈ ns, j ∈ n.refIds := by
  induction ns with
  | nil => simp [refIdsAll]
  | cons n rest ih => simp [refIdsAll, ih]

@[simp] theorem mem_refIdsFields {fs : List (String × Schema)} :
    j ∈ refIdsFields fs ↔ ∃ p ∈ fs, j ∈ p.2.refIds := by
  induction fs with
  | nil => simp [refIdsFields]
  | cons p rest ih =>
    obtain ⟨k, n⟩ := p
    simp [refIdsFields, ih]

end Schema

variable {B o o' : Bodies} {n m b : Schema} {i j : DefinitionId}

theorem Reaches.mono (sub : n.refIds ⊆ m.refIds) : Reaches B n j → Reaches B m j
  | .direct member => .direct (sub member)
  | .through member found inner => .through (sub member) found inner

theorem Reaches.self : Reaches B (.ref i) i := .direct (by simp [Schema.refIds])

theorem Reaches.body (found : B.lookup i = some b) (inner : Reaches B b j) : Reaches B (.ref i) j :=
  .through (by simp [Schema.refIds]) found inner

theorem List.mem_of_lookup_eq_some {l : Bodies} (found : l.lookup i = some b) : (i, b) ∈ l := by
  obtain ⟨l₁, l₂, rfl, -⟩ := List.lookup_eq_some_iff.1 found
  simp

theorem Reaches.rank_lt (rank : DefinitionId → Nat)
    (ranked : ∀ p ∈ B, ∀ j ∈ p.2.refIds, rank j < rank p.1) (reaches : Reaches B n j) :
    ∀ {k}, (∀ j ∈ n.refIds, rank j < k) → rank j < k := by
  -- every body refers only to ranks below its own, so each step through a body goes down
  induction reaches with
  | direct member => exact fun below => below _ member
  | through member found _ ih =>
    exact fun below => Nat.lt_trans (ih (ranked _ (List.mem_of_lookup_eq_some found))) (below _ member)

theorem Bodies.acyclic_of_ranked (rank : DefinitionId → Nat)
    (ranked : ∀ p ∈ B, ∀ j ∈ p.2.refIds, rank j < rank p.1) : B.Acyclic := by
  intro i b found reaches
  have := reaches.rank_lt rank ranked (ranked _ (List.mem_of_lookup_eq_some found))
  exact Nat.lt_irrefl _ this

theorem Reaches.defined (closed : ∀ p ∈ B, ∀ j ∈ p.2.refIds, (B.lookup j).isSome)
    (reaches : Reaches B n j) : (∀ j ∈ n.refIds, (B.lookup j).isSome) → (B.lookup j).isSome := by
  induction reaches with
  | direct member => exact fun top => top _ member
  | through _ found _ ih => exact fun _ => ih (closed _ (List.mem_of_lookup_eq_some found))

/-! ## Open bodies that cover a node -/

namespace Bodies

theorem Covers.mono (sub : n.refIds ⊆ m.refIds) (covers : B.Covers o m) : B.Covers o n :=
  fun j reaches => covers j (reaches.mono sub)

theorem covers_self (defined : ∀ j, Reaches B n j → (B.lookup j).isSome) : B.Covers B n := by
  intro j reaches
  obtain ⟨b, found⟩ := Option.isSome_iff_exists.1 (defined j reaches)
  exact ⟨b, found, found⟩

theorem Covers.take (covers : B.Covers o (.ref i)) :
    ∃ b rest, o.take? i = some (b, rest) ∧ B.lookup i = some b := by
  obtain ⟨b, open_, found⟩ := covers i .self
  obtain ⟨rest, taken⟩ := take?_of_lookup open_
  exact ⟨b, rest, taken, found⟩

theorem Covers.rest {rest : Bodies} (acyclic : B.Acyclic) (covers : B.Covers o (.ref i))
    (taken : o.take? i = some (b, rest)) : B.lookup i = some b ∧ B.Covers rest b := by
  obtain ⟨open_, kept⟩ := take?_eq_some taken
  obtain ⟨b', open', found⟩ := covers i .self
  rw [open_, Option.some.injEq] at open'
  subst open'
  refine ⟨found, fun j reaches => ?_⟩
  -- without a cycle nothing the body reaches is the reference itself, which alone was taken out
  have other : j ≠ i := by
    rintro rfl
    exact acyclic j b found reaches
  rw [kept j other]
  exact covers j (.body found reaches)

end Bodies

/-! ## Open bodies make no difference without cycles -/

namespace Schema

variable {k : String} {rest : List Schema} {fields : List (String × Schema)}

theorem refIds_sub_array : n.refIds ⊆ (array n).refIds := fun _ => id

theorem refIds_sub_record : n.refIds ⊆ (record n).refIds := fun _ => id

theorem refIds_sub_union : (tuple rest).refIds ⊆ (union rest).refIds := fun _ => id

theorem refIds_sub_tuple_head : n.refIds ⊆ (tuple (n :: rest)).refIds :=
  fun _ member => List.mem_append_left _ member

theorem refIds_sub_tuple_tail : (tuple rest).refIds ⊆ (tuple (n :: rest)).refIds :=
  fun _ member => List.mem_append_right _ member

theorem refIds_sub_object_head : n.refIds ⊆ (object ((k, n) :: fields)).refIds :=
  fun _ member => List.mem_append_left _ member

theorem refIds_sub_object_tail : (object fields).refIds ⊆ (object ((k, n) :: fields)).refIds :=
  fun _ member => List.mem_append_right _ member

end Schema

variable {c : Category}

theorem inline_ref_of_take? {rest : Bodies} (taken : o.take? i = some (b, rest)) :
    inline c o (.ref i) = inline c rest b := by
  rw [inline]
  split
  · next b' rest' taken' =>
    rw [taken, Option.some.injEq, Prod.mk.injEq] at taken'
    obtain ⟨rfl, rfl⟩ := taken'
    rfl
  · next missing => rw [taken] at missing; cases missing

theorem inline_congr_all (acyclic : B.Acyclic) :
    (∀ o n o', B.Covers o n → B.Covers o' n → inline c o n = inline c o' n) ∧
    (∀ o ns o', B.Covers o (.tuple ns) → B.Covers o' (.tuple ns) →
      inlineAll c o ns = inlineAll c o' ns) ∧
    (∀ o fs o', B.Covers o (.object fs) → B.Covers o' (.object fs) →
      inlineFields c o fs = inlineFields c o' fs) := by
  refine inline.mutual_induct
    (fun o n => ∀ o', B.Covers o n → B.Covers o' n → inline c o n = inline c o' n)
    (fun o ns => ∀ o', B.Covers o (.tuple ns) → B.Covers o' (.tuple ns) →
      inlineAll c o ns = inlineAll c o' ns)
    (fun o fs => ∀ o', B.Covers o (.object fs) → B.Covers o' (.object fs) →
      inlineFields c o fs = inlineFields c o' fs)
    ?primitive ?object ?array ?tuple ?union ?enum ?record ?taken ?missing ?other ?allNil ?allCons
    ?fieldsNil ?fieldsCons
  case primitive => intro o p o' _ _; rw [inline, inline]
  case object =>
    intro o fs fields o' covers covers'
    rw [inline, inline, fields o' covers covers']
  case array =>
    intro o el element o' covers covers'
    rw [inline, inline,
      element o' (covers.mono Schema.refIds_sub_array) (covers'.mono Schema.refIds_sub_array)]
  case tuple =>
    intro o els elements o' covers covers'
    rw [inline, inline, elements o' covers covers']
  case union =>
    intro o opts options o' covers covers'
    rw [inline, inline,
      options o' (covers.mono Schema.refIds_sub_union) (covers'.mono Schema.refIds_sub_union)]
  case enum => intro o vals o' _ _; rw [inline, inline]
  case record =>
    intro o v inner o' covers covers'
    rw [inline, inline,
      inner o' (covers.mono Schema.refIds_sub_record) (covers'.mono Schema.refIds_sub_record)]
  case taken =>
    -- both sets hold the same body, and what is left of each still covers it
    intro o i b rest taken body o' covers covers'
    obtain ⟨found, covered⟩ := covers.rest acyclic taken
    obtain ⟨b', rest', taken', found'⟩ := covers'.take
    rw [found, Option.some.injEq] at found'
    subst found'
    rw [inline_ref_of_take? taken, inline_ref_of_take? taken']
    exact body rest' covered (covers'.rest acyclic taken').2
  case missing =>
    intro o i missing o' covers _
    obtain ⟨b, rest, taken, -⟩ := covers.take
    rw [taken] at missing
    cases missing
  case other => intro o k o' _ _; rw [inline, inline]
  case allNil => intro o o' _ _; rw [inlineAll, inlineAll]
  case allCons =>
    intro o n rest head tail o' covers covers'
    rw [inlineAll, inlineAll,
      head o' (covers.mono Schema.refIds_sub_tuple_head) (covers'.mono Schema.refIds_sub_tuple_head),
      tail o' (covers.mono Schema.refIds_sub_tuple_tail) (covers'.mono Schema.refIds_sub_tuple_tail)]
  case fieldsNil => intro o o' _ _; rw [inlineFields, inlineFields]
  case fieldsCons =>
    intro o k n rest head tail o' covers covers'
    rw [inlineFields, inlineFields,
      head o' (covers.mono Schema.refIds_sub_object_head) (covers'.mono Schema.refIds_sub_object_head),
      tail o' (covers.mono Schema.refIds_sub_object_tail) (covers'.mono Schema.refIds_sub_object_tail)]

theorem inline_congr (acyclic : B.Acyclic) (covers : B.Covers o n) (covers' : B.Covers o' n) :
    inline c o n = inline c o' n :=
  (inline_congr_all acyclic).1 o n o' covers covers'

/-! ## Resolving references -/

mutual

/-- `Resolves r v w`: replacing every `$ref` inside `v` by the definition `r` stores under its
name, and so on inside what that brings in, ends and gives `w`. -/
inductive Resolves (r : Registry) : Json → Json → Prop where
  | ref {v d w : Json} {x : String} :
      referencedName? v = some x → r.get? x = some d → Resolves r d w → Resolves r v w
  | object {fs gs : Fields} :
      referencedName? (.object fs) = none → ResolvesFields r fs gs → Resolves r (.object fs) (.object gs)
  | array {items ws : List Json} : ResolvesAll r items ws → Resolves r (.array items) (.array ws)
  | null : Resolves r .null .null
  | bool (b : Bool) : Resolves r (.bool b) (.bool b)
  | number (x : JsonNumber) : Resolves r (.number x) (.number x)
  | string (s : String) : Resolves r (.string s) (.string s)

inductive ResolvesAll (r : Registry) : List Json → List Json → Prop where
  | nil : ResolvesAll r [] []
  | cons {v w : Json} {vs ws : List Json} :
      Resolves r v w → ResolvesAll r vs ws → ResolvesAll r (v :: vs) (w :: ws)

inductive ResolvesFields (r : Registry) : Fields → Fields → Prop where
  | nil : ResolvesFields r [] []
  | cons {k : String} {v w : Json} {fs gs : Fields} :
      Resolves r v w → ResolvesFields r fs gs → ResolvesFields r ((k, v) :: fs) ((k, w) :: gs)

end

variable {r rf : Registry}

mutual

theorem Resolves.unique {v w w' : Json} : Resolves r v w → Resolves r v w' → w = w'
  | .ref named found inner, .ref named' found' inner' => by
    obtain rfl := Option.some.inj (named.symm.trans named')
    obtain rfl := Option.some.inj (found.symm.trans found')
    exact Resolves.unique inner inner'
  | .ref named _ _, .object unnamed _ => by rw [named] at unnamed; cases unnamed
  | .ref named _ _, .array _ | .ref named _ _, .null | .ref named _ _, .bool _
  | .ref named _ _, .number _ | .ref named _ _, .string _ => by simp [referencedName?, Json.get?] at named
  | .object unnamed _, .ref named _ _ => by rw [named] at unnamed; cases unnamed
  | .array _, .ref named _ _ | .null, .ref named _ _ | .bool _, .ref named _ _
  | .number _, .ref named _ _ | .string _, .ref named _ _ => by simp [referencedName?, Json.get?] at named
  | .object _ fields, .object _ fields' => by rw [ResolvesFields.unique fields fields']
  | .array items, .array items' => by rw [ResolvesAll.unique items items']
  | .null, .null | .bool _, .bool _ | .number _, .number _ | .string _, .string _ => rfl

theorem ResolvesAll.unique {vs ws ws' : List Json} : ResolvesAll r vs ws → ResolvesAll r vs ws' → ws = ws'
  | .nil, .nil => rfl
  | .cons head tail, .cons head' tail' => by
    rw [Resolves.unique head head', ResolvesAll.unique tail tail']

theorem ResolvesFields.unique {fs gs gs' : Fields} :
    ResolvesFields r fs gs → ResolvesFields r fs gs' → gs = gs'
  | .nil, .nil => rfl
  | .cons head tail, .cons head' tail' => by
    rw [Resolves.unique head head', ResolvesFields.unique tail tail']

end

mutual

theorem Resolves.keep (kept : ∀ x d, r.get? x = some d → rf.get? x = some d) {v w : Json} :
    Resolves r v w → Resolves rf v w
  | .ref named found inner => .ref named (kept _ _ found) (Resolves.keep kept inner)
  | .object unnamed fields => .object unnamed (ResolvesFields.keep kept fields)
  | .array items => .array (ResolvesAll.keep kept items)
  | .null => .null
  | .bool b => .bool b
  | .number x => .number x
  | .string s => .string s

theorem ResolvesAll.keep (kept : ∀ x d, r.get? x = some d → rf.get? x = some d) {vs ws : List Json} :
    ResolvesAll r vs ws → ResolvesAll rf vs ws
  | .nil => .nil
  | .cons head tail => .cons (Resolves.keep kept head) (ResolvesAll.keep kept tail)

theorem ResolvesFields.keep (kept : ∀ x d, r.get? x = some d → rf.get? x = some d) {fs gs : Fields} :
    ResolvesFields r fs gs → ResolvesFields rf fs gs
  | .nil => .nil
  | .cons head tail => .cons (Resolves.keep kept head) (ResolvesFields.keep kept tail)

end

mutual

theorem Resolves.self : ∀ {v : Json}, v.refs = [] → Resolves r v v
  | .null, _ => .null
  | .bool b, _ => .bool b
  | .number x, _ => .number x
  | .string s, _ => .string s
  | .array items, noRefs => .array (ResolvesAll.self (by simpa using noRefs))
  | .object fs, noRefs => by
    rw [Json.refs_object, List.append_eq_nil_iff, Option.toList_eq_nil_iff] at noRefs
    exact .object noRefs.1 (ResolvesFields.self noRefs.2)

theorem ResolvesAll.self : ∀ {vs : List Json}, Json.refsAll vs = [] → ResolvesAll r vs vs
  | [], _ => .nil
  | v :: vs, noRefs => by
    rw [Json.refsAll, List.append_eq_nil_iff] at noRefs
    exact .cons (Resolves.self noRefs.1) (ResolvesAll.self noRefs.2)

theorem ResolvesFields.self : ∀ {fs : Fields}, Json.refsFields fs = [] → ResolvesFields r fs fs
  | [], _ => .nil
  | (k, v) :: fs, noRefs => by
    rw [Json.refsFields, List.append_eq_nil_iff] at noRefs
    exact .cons (Resolves.self noRefs.1) (ResolvesFields.self noRefs.2)

end

end OpenApiGen
