import OpenApiGen.Proofs.Schema.Hoisting

/-!
# Component numbers follow a pre-order walk

`slots B known n` lists, in the order a conversion meets them, the components converting `n` hands
out; `Numbered r r' ss` says they got consecutive names from the counter of `r`
(`convert_numbered`, `assemble_numbered`).
-/

namespace OpenApiGen

/-! ## What a conversion hands out -/

inductive Slot where
  | tuple (elements : List Schema)
  | union (options : List Schema)
  | definition (id : DefinitionId)
  | record (value : Schema)
  | anyType

namespace Slot

def numbered : Slot → Bool
  | .anyType => false
  | _ => true

def definition? : Slot → Option DefinitionId
  | .definition i => some i
  | _ => none

/-- What the component of a slot holds once converted: the `anyOf` of as many fragments as the
tuple or union has members, a filled definition, or the `anyType` schema. -/
def Fits : Slot → Json → Prop
  | .tuple els, d => ∃ items : List Json, items.length = els.length ∧
      d = .object [("type", .string "array"), ("items", .object [("anyOf", .array items)])]
  | .union opts, d => ∃ items : List Json, items.length = opts.length ∧
      d = .object [("anyOf", .array items)]
  | .definition _, d => d ≠ .object []
  | .record _, d => d ≠ .object []
  | .anyType, d => d = anyTypeSchema

end Slot

def expanded (ss : List Slot) : List DefinitionId := ss.filterMap Slot.definition?

def knownAfter (known : DefinitionId → Bool) (ss : List Slot) : DefinitionId → Bool :=
  fun i => known i || (expanded ss).contains i

def unexpanded (B : Bodies) (known : DefinitionId → Bool) : Nat :=
  (B.filter (fun p => !known p.1)).length

theorem unexpanded_le {B : Bodies} {known known' : DefinitionId → Bool}
    (more : ∀ i, known i = true → known' i = true) : unexpanded B known' ≤ unexpanded B known := by
  unfold unexpanded
  apply List.Sublist.length_le
  apply List.monotone_filter_right
  intro p h
  cases hk : known p.1 <;> simp_all

theorem unexpanded_lt {B : Bodies} {known : DefinitionId → Bool} {id : DefinitionId} {b : Schema}
    (fresh : known id = false) (found : B.lookup id = some b) :
    unexpanded B (fun j => known j || j == id) < unexpanded B known := by
  have split : B.filter (fun p => !(known p.1 || p.1 == id)) =
      (B.filter (fun p => !known p.1)).filter (fun p => !(p.1 == id)) := by
    rw [List.filter_filter]
    congr 1
    funext p
    cases known p.1 <;> simp
  unfold unexpanded
  rw [split, List.length_filter_lt_length_iff_exists]
  exact ⟨(id, b), List.mem_filter.2 ⟨List.mem_of_lookup_eq_some found, by simp [fresh]⟩, by simp⟩

theorem lex_of_le_of_lt {a a' b b' : Nat} (first : a' ≤ a) (second : b' < b) :
    Prod.Lex (· < ·) (· < ·) (a', b') (a, b) := by
  rcases Nat.lt_or_eq_of_le first with lt | rfl
  · exact .left _ _ lt
  · exact .right _ second

mutual

/-- What converting `n` hands out, in order, when the definitions `known` are remembered. -/
def slots (B : Bodies) (known : DefinitionId → Bool) : Schema → List Slot
  | .primitive p => if p = .any ∨ p = .unknown then [.anyType] else []
  | .object fs => slotsFields B known fs
  | .array el => slots B known el
  | .tuple els => .tuple els :: slotsAll B known els
  | .union opts => .union opts :: slotsAll B known opts
  | .enum _ => []
  | .record v => slots B known v
  | .ref id =>
    if known id then []
    else .definition id :: match _found : B.lookup id with
      | some body => slots B (fun j => known j || j == id) body
      | none => []
  | .other _ => []
termination_by n => (unexpanded B known, sizeOf n)
decreasing_by
  all_goals first
    | (apply Prod.Lex.left; exact unexpanded_lt (by simpa using ‹¬known id = true›) _found)
    | (apply Prod.Lex.right; simp_wf)

/-- Slots of members in order, each walked with what its elder siblings expanded known. -/
def slotsAll (B : Bodies) (known : DefinitionId → Bool) : List Schema → List Slot
  | [] => []
  | n :: rest =>
    let s := slots B known n
    s ++ slotsAll B (knownAfter known s) rest
termination_by ns => (unexpanded B known, sizeOf ns)
decreasing_by
  all_goals first
    | (apply Prod.Lex.right; decreasing_tactic)
    | (apply lex_of_le_of_lt (unexpanded_le (fun i h => by simp [knownAfter, h])); decreasing_tactic)

def slotsFields (B : Bodies) (known : DefinitionId → Bool) : List (String × Schema) → List Slot
  | [] => []
  | (_, n) :: rest =>
    let s := slots B known n
    s ++ slotsFields B (knownAfter known s) rest
termination_by fs => (unexpanded B known, sizeOf fs)
decreasing_by
  all_goals first
    | (apply Prod.Lex.right; decreasing_tactic)
    | (apply lex_of_le_of_lt (unexpanded_le (fun i h => by simp [knownAfter, h])); decreasing_tactic)

end

/-- The name each slot gets when numbering starts at `k`. -/
def named : Nat → List Slot → List (Slot × String)
  | _, [] => []
  | k, s :: rest =>
    if s.numbered then (s, Registry.typeName k) :: named (k + 1) rest
    else (s, anyTypeName) :: named k rest

def Registry.known (r : Registry) : DefinitionId → Bool := fun i => (r.lookup (.definition i)).isSome

/-- Whether converting `n` writes it into a component of its own: a tuple, a union, or a reference
to a definition the registry does not remember yet. -/
def Registry.hoists (r : Registry) : Schema → Bool
  | .tuple _ | .union _ => true
  | .ref id => (r.lookup (.definition id)).isNone
  | _ => false

/-- The open bodies `o` still hold, for every definition `r` does not remember, its body in the
full table `B`. -/
def OpensAll (B o : Bodies) (r : Registry) : Prop :=
  ∀ j, r.lookup (.definition j) = none → o.lookup j = B.lookup j

/-! ## The walk -/

section Walk

variable {B : Bodies} {known : DefinitionId → Bool}

theorem slots_ref_known {id : DefinitionId} (h : known id = true) : slots B known (.ref id) = [] := by
  rw [slots]
  simp [h]

theorem slots_ref_body {id : DefinitionId} {body : Schema} (fresh : known id = false)
    (found : B.lookup id = some body) :
    slots B known (.ref id) = .definition id :: slots B (fun j => known j || j == id) body := by
  rw [slots]
  simp only [fresh, Bool.false_eq_true, if_false, List.cons.injEq, true_and]
  split <;> simp_all

theorem slots_ref_undefined {id : DefinitionId} (fresh : known id = false)
    (missing : B.lookup id = none) : slots B known (.ref id) = [.definition id] := by
  rw [slots]
  simp only [fresh, Bool.false_eq_true, if_false, List.cons.injEq, true_and]
  split <;> simp_all

@[simp] theorem expanded_nil : expanded [] = [] := rfl

@[simp] theorem expanded_append (s1 s2 : List Slot) :
    expanded (s1 ++ s2) = expanded s1 ++ expanded s2 := List.filterMap_append

theorem expanded_cons (s : Slot) (ss : List Slot) :
    expanded (s :: ss) = s.definition?.toList ++ expanded ss := by
  cases h : s.definition? <;> simp [expanded, h]

theorem expanded_slots_all :
    (∀ known n, ∀ i ∈ expanded (slots B known n), known i = false) ∧
    (∀ known ns, ∀ i ∈ expanded (slotsAll B known ns), known i = false) ∧
    (∀ known fs, ∀ i ∈ expanded (slotsFields B known fs), known i = false) := by
  refine slots.mutual_induct B
    (fun known n => ∀ i ∈ expanded (slots B known n), known i = false)
    (fun known ns => ∀ i ∈ expanded (slotsAll B known ns), known i = false)
    (fun known fs => ∀ i ∈ expanded (slotsFields B known fs), known i = false)
    ?any ?plain ?object ?array ?tuple ?union ?enum ?record ?known ?fresh ?other
    ?allNil ?allCons ?fieldsNil ?fieldsCons
  all_goals intros
  case any known p any i member => simp [slots, any, expanded, Slot.definition?] at member
  case plain known p plain i member => simp [slots, plain] at member
  case object known fs fields i member => rw [slots] at member; exact fields i member
  case array known el element i member => rw [slots] at member; exact element i member
  case tuple known els elements i member =>
    rw [slots, expanded_cons] at member
    exact elements i (by simpa [Slot.definition?] using member)
  case union known opts options i member =>
    rw [slots, expanded_cons] at member
    exact options i (by simpa [Slot.definition?] using member)
  case enum known vals i member => simp [slots] at member
  case record known v inner i member => rw [slots] at member; exact inner i member
  case known known id h i member => simp [slots_ref_known h] at member
  case fresh known id fresh inner i member =>
    have unknown : known id = false := by simpa using fresh
    cases found : B.lookup id with
    | none =>
      rw [slots_ref_undefined unknown found] at member
      simp [expanded, Slot.definition?] at member
      exact member ▸ unknown
    | some body =>
      rw [slots_ref_body unknown found, expanded_cons] at member
      rcases List.mem_append.1 member with here | later
      · simp [Slot.definition?] at here
        exact here ▸ unknown
      · have := inner body found i later
        simp only [Bool.or_eq_false_iff] at this
        exact this.1
  case other known k i member => simp [slots] at member
  case allNil known i member => simp [slotsAll] at member
  case allCons known n rest s head tail i member =>
    rw [slotsAll] at member
    rcases List.mem_append.1 (by simpa using member) with here | later
    · exact head i here
    · have := tail i later
      simp only [knownAfter, Bool.or_eq_false_iff] at this
      exact this.1
  case fieldsNil known i member => simp [slotsFields] at member
  case fieldsCons known k n rest s head tail i member =>
    rw [slotsFields] at member
    rcases List.mem_append.1 (by simpa using member) with here | later
    · exact head i here
    · have := tail i later
      simp only [knownAfter, Bool.or_eq_false_iff] at this
      exact this.1

theorem expanded_slots_unknown {n : Schema} {i : DefinitionId} (member : i ∈ expanded (slots B known n)) :
    known i = false :=
  expanded_slots_all.1 known n i member

end Walk

/-! ## Names -/

@[simp] theorem named_nil (k : Nat) : named k [] = [] := rfl

theorem named_append (k : Nat) (s1 s2 : List Slot) :
    named k (s1 ++ s2) = named k s1 ++ named (k + s1.countP Slot.numbered) s2 := by
  induction s1 generalizing k with
  | nil => simp
  | cons s rest ih =>
    by_cases h : s.numbered = true
    · simp only [List.cons_append, named, h, if_true, ih, List.countP_cons_of_pos h]
      congr 3
      omega
    · simp only [List.cons_append, named, h, ih, List.countP_cons_of_neg h]
      simp

theorem mem_named {k : Nat} {ss : List Slot} {p : Slot × String} (member : p ∈ named k ss) :
    p.2 = anyTypeName ∨
      ∃ m, k ≤ m ∧ m < k + ss.countP Slot.numbered ∧ p.2 = Registry.typeName m := by
  induction ss generalizing k with
  | nil => simp at member
  | cons s rest ih =>
    by_cases h : s.numbered = true
    · rw [named, if_pos h, List.mem_cons] at member
      rcases member with rfl | later
      · exact .inr ⟨k, Nat.le_refl k, by simp [List.countP_cons_of_pos h], rfl⟩
      · rcases ih later with any | ⟨m, lower, upper, named⟩
        · exact .inl any
        · exact .inr ⟨m, by omega, by simp [List.countP_cons_of_pos h]; omega, named⟩
    · rw [named, if_neg h, List.mem_cons] at member
      rcases member with rfl | later
      · exact .inl rfl
      · rcases ih later with any | ⟨m, lower, upper, named⟩
        · exact .inl any
        · exact .inr ⟨m, lower, by simp [List.countP_cons_of_neg h]; omega, named⟩

theorem mem_expanded_iff {k : Nat} {ss : List Slot} {i : DefinitionId} :
    i ∈ expanded ss ↔ ∃ x, (Slot.definition i, x) ∈ named k ss := by
  induction ss generalizing k with
  | nil => simp
  | cons s rest ih =>
    rw [expanded_cons, List.mem_append]
    cases s with
    | definition j =>
      by_cases same : j = i
      · subst same
        simp [named, Slot.numbered, Slot.definition?]
      · simp [named, Slot.numbered, Slot.definition?, Ne.symm same]
        exact ih
    | anyType => simpa [named, Slot.numbered, Slot.definition?] using ih
    | tuple els => simpa [named, Slot.numbered, Slot.definition?] using ih
    | union opts => simpa [named, Slot.numbered, Slot.definition?] using ih
    | record v => simpa [named, Slot.numbered, Slot.definition?] using ih

theorem named_cons_numbered {k : Nat} {s : Slot} {ss : List Slot} (numbered : s.numbered = true) :
    named k (s :: ss) = (s, Registry.typeName k) :: named (k + 1) ss := by
  rw [named, if_pos numbered]

theorem named_numbered (k : Nat) (ss : List Slot) :
    ((named k ss).filter (fun p => p.1.numbered)).map Prod.snd =
      (List.range' k (ss.countP Slot.numbered)).map Registry.typeName := by
  induction ss generalizing k with
  | nil => simp
  | cons s rest ih =>
    by_cases h : s.numbered = true
    · simp [named_cons_numbered h, h, ih, List.countP_cons_of_pos h, List.range'_succ]
    · simp [named, h, ih, List.countP_cons_of_neg h]

example : (named 5 [.union [], .anyType, .tuple [], .definition 0]).map Prod.snd =
    ["type5", "anyType", "type6", "type7"] := by decide

/-! ## Handing out slots -/

namespace Registry

/-- Going from `r` to `r'` handed out the slots `ss`, numbered from the counter of `r`. -/
structure Numbered (r r' : Registry) (ss : List Slot) : Prop where
  next : r'.next.toNat = r.next.toNat + ss.countP Slot.numbered
  keys : r'.schemas.keys = (r.schemas.keys ++ (named r.next.toNat ss).map Prod.snd).eraseDups
  stored : ∀ p ∈ named r.next.toNat ss, ∃ d, r'.get? p.2 = some d ∧ p.1.Fits d
  memo : ∀ i x, (Slot.definition i, x) ∈ named r.next.toNat ss → r'.lookup (.definition i) = some x
  fresh : ∀ i ∈ expanded ss, r.lookup (.definition i) = none
  others : ∀ i, i ∉ expanded ss → r'.lookup (.definition i) = r.lookup (.definition i)
  keeps : r.Keeps r'

variable {r r1 r2 r' : Registry} {ss s1 s2 : List Slot}

theorem Numbered.nil (valid : r.Valid) : r.Numbered r [] where
  next := by simp
  keys := by simp [eraseDups_of_nodup valid.nodup]
  stored := by simp
  memo := by simp
  fresh := by simp
  others := fun _ _ => rfl
  keeps := Keeps.refl r

theorem Numbered.known_eq (numbered : r.Numbered r' ss) : r'.known = knownAfter r.known ss := by
  funext i
  by_cases member : i ∈ expanded ss
  · obtain ⟨x, named⟩ := (mem_expanded_iff (k := r.next.toNat)).1 member
    simp [known, knownAfter, numbered.memo i x named, member]
  · simp [known, knownAfter, numbered.others i member, member]

theorem Numbered.lookup_none (numbered : r.Numbered r' ss) {i : DefinitionId}
    (unknown : r'.lookup (.definition i) = none) : r.lookup (.definition i) = none := by
  by_cases member : i ∈ expanded ss
  · exact numbered.fresh i member
  · rwa [← numbered.others i member]

theorem Numbered.append (first : r.Numbered r1 s1) (second : r1.Numbered r2 s2) :
    r.Numbered r2 (s1 ++ s2) := by
  have start : r1.next.toNat = r.next.toNat + s1.countP Slot.numbered := first.next
  constructor
  · rw [second.next, first.next, List.countP_append]
    omega
  · rw [second.keys, first.keys, eraseDups_eraseDups_append, named_append, start]
    simp
  · intro p member
    rw [named_append, List.mem_append, ← start] at member
    rcases member with early | late
    · obtain ⟨d, found, fits⟩ := first.stored p early
      exact ⟨d, second.keeps _ _ found, fits⟩
    · exact second.stored p late
  · intro i x member
    rw [named_append, List.mem_append, ← start] at member
    rcases member with early | late
    · have remembered := first.memo i x early
      have notLater : i ∉ expanded s2 := fun later => by
        rw [second.fresh i later] at remembered
        cases remembered
      rw [second.others i notLater, remembered]
    · exact second.memo i x late
  · intro i member
    rw [expanded_append, List.mem_append] at member
    rcases member with early | late
    · exact first.fresh i early
    · exact first.lookup_none (second.fresh i late)
  · intro i member
    simp only [expanded_append, List.mem_append, not_or] at member
    rw [second.others i member.2, first.others i member.1]
  · exact first.keeps.trans second.keeps

theorem Numbered.hoist {s : Slot} {key : Option ComponentKey} {name : String} {d : Json}
    (valid : r.Valid) (reserved : r.reserve key = .ok (name, r1))
    (keyed : key = s.definition?.map ComponentKey.definition) (numbered : s.numbered = true)
    (unknown : ∀ i, s.definition? = some i → r.lookup (.definition i) = none ∧ i ∉ expanded ss)
    (rest : r1.Numbered r2 ss) (fits : s.Fits d) :
    r.Numbered (r2.register none name d) (s :: ss) := by
  obtain ⟨room, named, shape⟩ := reserve_eq_ok.1 reserved
  obtain ⟨keeps1, absent, -⟩ := valid.keeps_reserve reserved
  have lookup1 := lookup_reserve reserved
  have next1 : r1.next.toNat = r.next.toNat + 1 := by
    rw [shape]
    exact toNat_next_succ room
  have keys1 : r1.schemas.keys = r.schemas.keys ++ [name] := by
    rw [shape, named, register_schemas, Fields.keys_insert, if_neg valid.typeName_next_not_mem]
  subst named
  -- The names handed out after the slot are all different from the slot's own.
  have distinct : ∀ p ∈ named (r.next.toNat + 1) ss, p.2 ≠ typeName r.next.toNat := by
    intro p member same
    rcases mem_named member with any | ⟨m, lower, -, generated⟩
    · exact typeName_ne_anyTypeName _ (same ▸ any)
    · have := typeName_injective (generated.symm.trans same)
      omega
  constructor
  · simp [rest.next, next1, List.countP_cons_of_pos numbered]
    omega
  · have present : typeName r.next.toNat ∈ r2.schemas.keys := by
      simp [rest.keys, List.mem_eraseDups, keys1]
    rw [named_cons_numbered numbered, register_schemas, Fields.keys_insert, if_pos present, rest.keys,
      keys1, next1]
    simp
  · intro p member
    rw [named_cons_numbered numbered, List.mem_cons] at member
    rcases member with rfl | later
    · exact ⟨d, by simp [get?_register], fits⟩
    · obtain ⟨e, found, fitsE⟩ := rest.stored p (next1 ▸ later)
      refine ⟨e, ?_, fitsE⟩
      rw [get?_register, if_neg (distinct p later)]
      exact found
  · intro i x member
    rw [named_cons_numbered numbered, List.mem_cons] at member
    rcases member with own | later
    · simp only [Prod.mk.injEq] at own
      obtain ⟨rfl, rfl⟩ := own
      have notLater := (unknown i rfl).2
      rw [lookup_register_none, rest.others i notLater, lookup1, if_pos (by simp [keyed, Slot.definition?])]
    · rw [lookup_register_none]
      exact rest.memo i x (next1 ▸ later)
  · intro i member
    rw [expanded_cons, List.mem_append] at member
    rcases member with own | later
    · exact (unknown i (by simpa using own)).1
    · have earlier := rest.fresh i later
      rw [lookup1] at earlier
      split at earlier
      · cases earlier
      · exact earlier
  · intro i notMember
    rw [expanded_cons, List.mem_append, not_or] at notMember
    rw [lookup_register_none, rest.others i notMember.2, lookup1, if_neg]
    intro keyIs
    rw [keyed] at keyIs
    obtain ⟨j, own, same⟩ := Option.map_eq_some_iff.1 keyIs
    cases same
    exact notMember.1 (by simp [own])
  · exact (keeps1.trans rest.keeps).fill absent

theorem Numbered.anyType (valid : r.Valid) : r.Numbered r.anyType.2 [.anyType] where
  next := by
    rw [anyType_eq]
    split <;> simp [Slot.numbered]
  keys := by
    have lookupIff := valid.anyType_lookup
    simp only [named, Slot.numbered, Bool.false_eq_true, if_false, List.map_cons, List.map_nil]
    rw [eraseDups_concat, eraseDups_of_nodup valid.nodup, anyType_eq]
    by_cases present : anyTypeName ∈ r.schemas.keys
    · rw [if_pos present] at lookupIff
      simp [lookupIff, present]
    · rw [if_neg present] at lookupIff
      simp [lookupIff, present, Fields.keys_insert]
  stored := by
    simp only [named, Slot.numbered, Bool.false_eq_true, if_false, List.mem_cons, List.not_mem_nil,
      or_false, forall_eq]
    exact ⟨_, valid.get?_anyType, rfl⟩
  memo := by simp [named, Slot.numbered]
  fresh := by simp [expanded, Slot.definition?]
  others := fun i _ => lookup_anyType_definition i
  keeps := valid.keeps_anyType

theorem known_reserve_none {name : String} (reserved : r.reserve none = .ok (name, r1)) :
    r1.known = r.known := by
  funext j
  simp [known, lookup_reserve reserved]

theorem known_reserve_definition {name : String} {id : DefinitionId}
    (reserved : r.reserve (some (.definition id)) = .ok (name, r1)) :
    r1.known = fun j => r.known j || j == id := by
  funext j
  by_cases same : j = id
  · simp [known, lookup_reserve reserved, same]
  · simp [known, lookup_reserve reserved, same, Ne.symm same]

theorem next_reserve {key : Option ComponentKey} {name : String} (reserved : r.reserve key = .ok (name, r1)) :
    r1.next.toNat = r.next.toNat + 1 := by
  obtain ⟨room, -, rfl⟩ := reserve_eq_ok.1 reserved
  exact toNat_next_succ room

theorem reserve_of_room (r : Registry) (key : Option ComponentKey) (room : r.next.toNat < lastIndex.toNat) :
    ∃ r1, r.reserve key = .ok (typeName r.next.toNat, r1) := by
  refine ⟨_, reserve_eq_ok.2 ⟨fun full => ?_, rfl, rfl⟩⟩
  rw [full] at room
  exact Nat.lt_irrefl _ room

theorem Numbered.hoist_unkeyed {s : Slot} (walk : (DefinitionId → Bool) → List Slot) {name : String}
    {d : Json} (valid : r.Valid) (reserved : r.reserve none = .ok (name, r1))
    (numbered : s.numbered = true) (plain : s.definition? = none) (rest : r1.Numbered r2 (walk r1.known))
    (fits : s.Fits d) : r.Numbered (r2.register none name d) (s :: walk r.known) := by
  rw [known_reserve_none reserved] at rest
  exact Numbered.hoist valid reserved (by simp [plain]) numbered (by simp [plain]) rest fits

theorem reserve_unkeyed_room {s : Slot} (walk : (DefinitionId → Bool) → List Slot)
    (numbered : s.numbered = true)
    (room : r.next.toNat + (s :: walk r.known).countP Slot.numbered ≤ lastIndex.toNat) :
    ∃ r1, r.reserve none = .ok (typeName r.next.toNat, r1) ∧
      r1.next.toNat + (walk r1.known).countP Slot.numbered ≤ lastIndex.toNat := by
  rw [List.countP_cons_of_pos numbered] at room
  obtain ⟨r1, reserved⟩ := reserve_of_room r none (by omega)
  refine ⟨r1, reserved, ?_⟩
  rw [next_reserve reserved, known_reserve_none reserved]
  omega

end Registry

open Registry

variable {c : Category} {B o : Bodies} {r r1 r2 r' : Registry}

theorem OpensAll.numbered {ss : List Slot} (opens : OpensAll B o r) (numbered : r.Numbered r' ss) :
    OpensAll B o r' :=
  fun j unknown => opens j (numbered.lookup_none unknown)

theorem OpensAll.reserve_none {name : String} (opens : OpensAll B o r)
    (reserved : r.reserve none = .ok (name, r1)) : OpensAll B o r1 := by
  intro j unknown
  apply opens j
  simpa [lookup_reserve reserved] using unknown

theorem OpensAll.take {id : DefinitionId} {b : Schema} {rest : Bodies} {name : String}
    (opens : OpensAll B o r) (taken : o.take? id = some (b, rest))
    (reserved : r.reserve (some (.definition id)) = .ok (name, r1)) : OpensAll B rest r1 := by
  intro j unknown
  have other : j ≠ id := by
    rintro rfl
    simp [lookup_reserve reserved] at unknown
  rw [(Bodies.take?_eq_some taken).2 j other]
  apply opens j
  simpa [lookup_reserve reserved, Ne.symm other] using unknown

theorem primitiveSchema_registry (p : Primitive) :
    (primitiveSchema c p r).2 = if p = .any ∨ p = .unknown then r.anyType.2 else r := by
  cases p <;> simp [primitiveSchema]

theorem Registry.Numbered.primitive {known : DefinitionId → Bool} (valid : r.Valid) (p : Primitive) :
    r.Numbered (primitiveSchema c p r).2 (slots B known (.primitive p)) := by
  rw [primitiveSchema_registry, slots]
  split
  · exact Numbered.anyType valid
  · exact Numbered.nil valid

theorem expand_numbered {id : DefinitionId} {name : String} {b : Json}
    (valid1 : r1.Valid) (unknown : r.known id = false) (opens : OpensAll B o r)
    (reserved : r.reserve (some (.definition id)) = .ok (name, r1))
    (converted : (match o.take? id with
      | some (b, rest) => convert c rest b r1
      | none => .ok (typeOnly "ref", r1)) = .ok (b, r2))
    (body : ∀ b' rest, o.take? id = some (b', rest) → convert c rest b' r1 = .ok (b, r2) →
      r1.Numbered r2 (slots B r1.known b')) :
    ∃ ss, r1.Numbered r2 ss ∧ b ≠ .object [] ∧ slots B r.known (.ref id) = .definition id :: ss ∧
      id ∉ expanded ss := by
  have missing : r.lookup (.definition id) = none := by simpa [known] using unknown
  have openFull : o.lookup id = B.lookup id := opens id missing
  split at converted
  · next b' rest taken =>
    have numbered := body b' rest taken converted
    rw [known_reserve_definition reserved] at numbered
    refine ⟨_, numbered, convert_ne_placeholder converted,
      slots_ref_body unknown (openFull ▸ (Bodies.take?_eq_some taken).1), fun member => ?_⟩
    have := expanded_slots_unknown member
    simp at this
  · next absent =>
    simp only [Except.ok.injEq, Prod.mk.injEq] at converted
    obtain ⟨rfl, rfl⟩ := converted
    have undefined : B.lookup id = none := by
      cases found : B.lookup id with
      | none => rfl
      | some b' =>
        obtain ⟨rest, taken⟩ := Bodies.take?_of_lookup (openFull.trans found)
        rw [taken] at absent
        cases absent
    exact ⟨[], Numbered.nil valid1, by simp [typeOnly], slots_ref_undefined unknown undefined, by simp⟩

theorem convert_numbered_all :
    (∀ o n r v r', r.Valid → OpensAll B o r → convert c o n r = .ok (v, r') →
      r.Numbered r' (slots B r.known n)) ∧
    (∀ o ns r items r', r.Valid → OpensAll B o r → convertAll c o ns r = .ok (items, r') →
      r.Numbered r' (slotsAll B r.known ns) ∧ items.length = ns.length) ∧
    (∀ o fs r props req r', r.Valid → OpensAll B o r →
      convertFields c o fs r = .ok (props, req, r') → r.Numbered r' (slotsFields B r.known fs)) := by
  refine convert.mutual_induct
    (fun o n r => ∀ v r', r.Valid → OpensAll B o r → convert c o n r = .ok (v, r') →
      r.Numbered r' (slots B r.known n))
    (fun o ns r => ∀ items r', r.Valid → OpensAll B o r → convertAll c o ns r = .ok (items, r') →
      r.Numbered r' (slotsAll B r.known ns) ∧ items.length = ns.length)
    (fun o fs r => ∀ props req r', r.Valid → OpensAll B o r →
      convertFields c o fs r = .ok (props, req, r') → r.Numbered r' (slotsFields B r.known fs))
    ?primitive ?object ?array ?tuple ?union ?enum ?record ?hit ?miss ?other ?allNil ?allCons
    ?fieldsNil ?fieldsCons
  case primitive =>
    intro o p r v r' valid opens converted
    have stored : r' = (primitiveSchema c p r).2 := by
      simp only [convert_primitive, Except.ok.injEq] at converted
      rw [converted]
    rw [stored]
    exact Numbered.primitive valid p
  case object =>
    intro o fs r fields v r' valid opens converted
    obtain ⟨props, req, convertedFields, -⟩ := convert_object_eq_ok.1 converted
    rw [slots]
    exact fields props req r' valid opens convertedFields
  case array =>
    intro o el r element v r' valid opens converted
    obtain ⟨items, convertedItems, -⟩ := convert_array_eq_ok.1 converted
    rw [slots]
    exact element items r' valid opens convertedItems
  case tuple =>
    intro o els r elements v r' valid opens converted
    obtain ⟨name, r1, items, r2, reserved, convertedItems, -, rfl⟩ := convert_tuple_eq_ok.1 converted
    obtain ⟨numbered, length⟩ := elements r1 items r2 (valid.of_reserve reserved (by simp)).1
      (opens.reserve_none reserved) convertedItems
    rw [slots]
    exact Numbered.hoist_unkeyed (fun k => slotsAll B k els) valid reserved rfl rfl numbered
      ⟨items, length, rfl⟩
  case union =>
    intro o opts r options v r' valid opens converted
    obtain ⟨name, r1, items, r2, reserved, convertedItems, -, rfl⟩ := convert_union_eq_ok.1 converted
    obtain ⟨numbered, length⟩ := options r1 items r2 (valid.of_reserve reserved (by simp)).1
      (opens.reserve_none reserved) convertedItems
    rw [slots]
    exact Numbered.hoist_unkeyed (fun k => slotsAll B k opts) valid reserved rfl rfl numbered
      ⟨items, length, rfl⟩
  case enum =>
    intro o vals r v r' valid opens converted
    simp only [convert_enum, Except.ok.injEq, Prod.mk.injEq] at converted
    rw [← converted.2, slots]
    exact Numbered.nil valid
  case record =>
    intro o n r inner v r' valid opens converted
    rw [slots]
    exact inner v r' valid opens (by simpa using converted)
  case hit =>
    intro o id r name found v r' valid opens converted
    rcases convert_ref_eq_ok.1 converted with ⟨_, -, -, rfl⟩ | ⟨missing, -⟩
    · rw [slots_ref_known (by simp [known, found])]
      exact Numbered.nil valid
    · rw [found] at missing
      cases missing
  case miss =>
    intro o id r missing body v r' valid opens converted
    rcases convert_ref_eq_ok.1 converted with
      ⟨_, found, -⟩ | ⟨-, name, r1, b, r2, reserved, expanded, -, rfl⟩
    · rw [found] at missing
      cases missing
    · have valid1 := (valid.of_reserve reserved (by simp)).1
      obtain ⟨ss, numbered, filled, shape, notInside⟩ :=
        expand_numbered valid1 (by simp [known, missing]) opens reserved expanded
          (fun b' rest taken convertedBody =>
            body r1 b' rest taken b r2 valid1 (opens.take taken reserved) convertedBody)
      rw [shape]
      refine Numbered.hoist valid reserved rfl rfl ?_ numbered filled
      intro i own
      cases own
      exact ⟨missing, notInside⟩
  case other =>
    intro o k r v r' valid opens converted
    simp only [convert_other, Except.ok.injEq, Prod.mk.injEq] at converted
    rw [← converted.2, slots]
    exact Numbered.nil valid
  case allNil =>
    intro o r items r' valid opens converted
    obtain ⟨rfl, rfl⟩ := convertAll_nil.1 converted
    exact ⟨by rw [slotsAll]; exact Numbered.nil valid, rfl⟩
  case allCons =>
    intro o n rest r head tail items r' valid opens converted
    obtain ⟨j, r1, js, convertedHead, convertedTail, rfl⟩ := convertAll_cons_eq_ok.1 converted
    have first := head j r1 valid opens convertedHead
    obtain ⟨second, length⟩ := tail r1 js r' (convert_valid valid convertedHead)
      (opens.numbered first) convertedTail
    rw [first.known_eq] at second
    rw [slotsAll]
    exact ⟨first.append second, by simp [length]⟩
  case fieldsNil =>
    intro o r props req r' valid opens converted
    obtain ⟨rfl, rfl, rfl⟩ := convertFields_nil.1 converted
    rw [slotsFields]
    exact Numbered.nil valid
  case fieldsCons =>
    intro o k n rest r head tail props req r' valid opens converted
    obtain ⟨j, r1, props', req', convertedHead, convertedTail, -⟩ :=
      convertFields_cons_eq_ok.1 converted
    have first := head j r1 valid opens convertedHead
    have second := tail r1 props' req' r' (convert_valid valid convertedHead)
      (opens.numbered first) convertedTail
    rw [first.known_eq] at second
    rw [slotsFields]
    exact first.append second

theorem convert_numbered {n : Schema} {v : Json} (valid : r.Valid) (opens : OpensAll B o r)
    (converted : convert c o n r = .ok (v, r')) : r.Numbered r' (slots B r.known n) :=
  convert_numbered_all.1 o n r v r' valid opens converted

theorem convert_succeeds_all :
    (∀ o n r, r.Valid → OpensAll B o r →
      r.next.toNat + (slots B r.known n).countP Slot.numbered ≤ lastIndex.toNat →
      ∃ v r', convert c o n r = .ok (v, r')) ∧
    (∀ o ns r, r.Valid → OpensAll B o r →
      r.next.toNat + (slotsAll B r.known ns).countP Slot.numbered ≤ lastIndex.toNat →
      ∃ items r', convertAll c o ns r = .ok (items, r')) ∧
    (∀ o fs r, r.Valid → OpensAll B o r →
      r.next.toNat + (slotsFields B r.known fs).countP Slot.numbered ≤ lastIndex.toNat →
      ∃ props req r', convertFields c o fs r = .ok (props, req, r')) := by
  refine convert.mutual_induct
    (fun o n r => r.Valid → OpensAll B o r →
      r.next.toNat + (slots B r.known n).countP Slot.numbered ≤ lastIndex.toNat →
      ∃ v r', convert c o n r = .ok (v, r'))
    (fun o ns r => r.Valid → OpensAll B o r →
      r.next.toNat + (slotsAll B r.known ns).countP Slot.numbered ≤ lastIndex.toNat →
      ∃ items r', convertAll c o ns r = .ok (items, r'))
    (fun o fs r => r.Valid → OpensAll B o r →
      r.next.toNat + (slotsFields B r.known fs).countP Slot.numbered ≤ lastIndex.toNat →
      ∃ props req r', convertFields c o fs r = .ok (props, req, r'))
    ?primitive ?object ?array ?tuple ?union ?enum ?record ?hit ?miss ?other ?allNil ?allCons
    ?fieldsNil ?fieldsCons
  case primitive =>
    intro o p r valid opens room
    exact ⟨_, _, convert_primitive⟩
  case object =>
    intro o fs r fields valid opens room
    rw [slots] at room
    obtain ⟨props, req, r', converted⟩ := fields valid opens room
    exact ⟨_, _, convert_object_eq_ok.2 ⟨props, req, converted, rfl⟩⟩
  case array =>
    intro o el r element valid opens room
    rw [slots] at room
    obtain ⟨items, r', converted⟩ := element valid opens room
    exact ⟨_, _, convert_array_eq_ok.2 ⟨items, converted, rfl⟩⟩
  case tuple =>
    intro o els r elements valid opens room
    rw [slots] at room
    obtain ⟨r1, reserved, room1⟩ := reserve_unkeyed_room (fun k => slotsAll B k els) rfl room
    obtain ⟨items, r2, converted⟩ :=
      elements r1 (valid.of_reserve reserved (by simp)).1 (opens.reserve_none reserved) room1
    exact ⟨_, _, convert_tuple_eq_ok.2 ⟨_, r1, items, r2, reserved, converted, rfl, rfl⟩⟩
  case union =>
    intro o opts r options valid opens room
    rw [slots] at room
    obtain ⟨r1, reserved, room1⟩ := reserve_unkeyed_room (fun k => slotsAll B k opts) rfl room
    obtain ⟨items, r2, converted⟩ :=
      options r1 (valid.of_reserve reserved (by simp)).1 (opens.reserve_none reserved) room1
    exact ⟨_, _, convert_union_eq_ok.2 ⟨_, r1, items, r2, reserved, converted, rfl, rfl⟩⟩
  case enum =>
    intro o vals r valid opens room
    exact ⟨_, _, convert_enum⟩
  case record =>
    intro o n r inner valid opens room
    rw [slots] at room
    simpa using inner valid opens room
  case hit =>
    intro o id r name found valid opens room
    exact ⟨_, _, convert_ref_eq_ok.2 (.inl ⟨name, found, rfl, rfl⟩)⟩
  case miss =>
    intro o id r missing body valid opens room
    have unknown : r.known id = false := by simp [known, missing]
    have atLeastOne : r.next.toNat < lastIndex.toNat := by
      have : 0 < (slots B r.known (.ref id)).countP Slot.numbered := by
        rw [slots, if_neg (by simp [unknown]), List.countP_cons_of_pos rfl]
        omega
      omega
    obtain ⟨r1, reserved⟩ := reserve_of_room r (some (.definition id)) atLeastOne
    cases taken : o.take? id with
    | none =>
      refine ⟨_, _,
        convert_ref_eq_ok.2 (.inr ⟨missing, _, r1, typeOnly "ref", r1, reserved, ?_, rfl, rfl⟩)⟩
      simp only [taken]
    | some entry =>
      obtain ⟨b, rest⟩ := entry
      have found : B.lookup id = some b := (opens id missing).symm.trans (Bodies.take?_eq_some taken).1
      have room1 : r1.next.toNat + (slots B r1.known b).countP Slot.numbered ≤ lastIndex.toNat := by
        rw [slots_ref_body unknown found, List.countP_cons_of_pos rfl] at room
        rw [next_reserve reserved, known_reserve_definition reserved]
        omega
      obtain ⟨v, r2, converted⟩ := body r1 b rest taken (valid.of_reserve reserved (by simp)).1
        (opens.take taken reserved) room1
      refine ⟨_, _, convert_ref_eq_ok.2 (.inr ⟨missing, _, r1, v, r2, reserved, ?_, rfl, rfl⟩)⟩
      simp only [taken]
      exact converted
  case other =>
    intro o k r valid opens room
    exact ⟨_, _, convert_other⟩
  case allNil =>
    intro o r valid opens room
    exact ⟨[], r, convertAll_nil.2 ⟨rfl, rfl⟩⟩
  case allCons =>
    intro o n rest r head tail valid opens room
    rw [slotsAll, List.countP_append] at room
    obtain ⟨j, r1, convertedHead⟩ := head valid opens (by omega)
    have first := convert_numbered valid opens convertedHead
    have room1 : r1.next.toNat + (slotsAll B r1.known rest).countP Slot.numbered ≤ lastIndex.toNat := by
      rw [first.next, first.known_eq]
      omega
    obtain ⟨js, r', convertedTail⟩ :=
      tail r1 (convert_valid valid convertedHead) (opens.numbered first) room1
    exact ⟨_, _, convertAll_cons_eq_ok.2 ⟨j, r1, js, convertedHead, convertedTail, rfl⟩⟩
  case fieldsNil =>
    intro o r valid opens room
    exact ⟨[], [], r, convertFields_nil.2 ⟨rfl, rfl, rfl⟩⟩
  case fieldsCons =>
    intro o k n rest r head tail valid opens room
    rw [slotsFields, List.countP_append] at room
    obtain ⟨j, r1, convertedHead⟩ := head valid opens (by omega)
    have first := convert_numbered valid opens convertedHead
    have room1 : r1.next.toNat + (slotsFields B r1.known rest).countP Slot.numbered ≤ lastIndex.toNat := by
      rw [first.next, first.known_eq]
      omega
    obtain ⟨props', req', r', convertedTail⟩ :=
      tail r1 (convert_valid valid convertedHead) (opens.numbered first) room1
    exact ⟨_, _, _,
      convertFields_cons_eq_ok.2 ⟨j, r1, props', req', convertedHead, convertedTail, rfl, rfl⟩⟩

theorem convert_succeeds {n : Schema} (valid : r.Valid) (opens : OpensAll B o r)
    (room : r.next.toNat + (slots B r.known n).countP Slot.numbered ≤ lastIndex.toNat) :
    ∃ v r', convert c o n r = .ok (v, r') :=
  convert_succeeds_all.1 o n r valid opens room

theorem opensAll_self (B : Bodies) (r : Registry) : OpensAll B B r := fun _ _ => rfl

theorem convert_hoisted_reference {n : Schema} {v : Json} (hoists : r.hoists n = true)
    (converted : convert c o n r = .ok (v, r')) : v = reference (typeName r.next.toNat) := by
  cases n with
  | tuple els =>
    obtain ⟨name, r1, -, -, reserved, -, rfl, -⟩ := convert_tuple_eq_ok.1 converted
    rw [(reserve_eq_ok.1 reserved).2.1]
  | union opts =>
    obtain ⟨name, r1, -, -, reserved, -, rfl, -⟩ := convert_union_eq_ok.1 converted
    rw [(reserve_eq_ok.1 reserved).2.1]
  | ref id =>
    have missing : r.lookup (.definition id) = none := by simpa [Registry.hoists] using hoists
    rcases convert_ref_eq_ok.1 converted with ⟨_, found, -⟩ | ⟨-, name, r1, -, -, reserved, -, rfl, -⟩
    · rw [found] at missing
      cases missing
    · rw [(reserve_eq_ok.1 reserved).2.1]
  | _ => simp [Registry.hoists] at hoists

/-! ## A whole route -/

/-- What a params or query root hands out: the slots of the fields of the object it resolves to;
resolving the root itself hands out nothing. -/
def rootSlots (B : Bodies) (known : DefinitionId → Bool) : Option Schema → List Slot
  | some root =>
    match resolveRoot B root with
    | some (.object fs) => slotsFields B known fs
    | _ => []
  | none => []

/-- What a body root hands out: the options of a union in order, the component of a record and
then its value's walk, or the root's own walk. -/
def bodySlots (B : Bodies) (known : DefinitionId → Bool) : Option Schema → List Slot
  | some (.union opts) => slotsAll B known opts
  | some (.record v) => .record v :: slots B known v
  | some n => slots B known n
  | none => []

/-- What assembling a route hands out: its params root, its body, then its query root, each walked
with what the earlier ones expanded known. -/
def routeSlots (B : Bodies) (known : DefinitionId → Bool) (inputs : RouteInputs) : List Slot :=
  let params := rootSlots B known inputs.params
  let body := bodySlots B (knownAfter known params) inputs.body
  params ++ body ++ rootSlots B (knownAfter (knownAfter known params) body) inputs.query

theorem fieldParameters_numbered {loc : Location} :
    ∀ {fs : List (String × Schema)} {r r' : Registry} {ps : List Parameter}, r.Valid →
      fieldParameters c B loc fs r = .ok (ps, r') → r.Numbered r' (slotsFields B r.known fs)
  | [], r, r', ps, valid, h => by
    obtain ⟨-, rfl⟩ := fieldParameters_nil_eq_ok.1 h
    rw [slotsFields]
    exact Numbered.nil valid
  | (name, field) :: rest, r, r', ps, valid, h => by
    obtain ⟨j, r1, ps', converted, restOk, -⟩ := fieldParameters_cons_eq_ok.1 h
    have first := convert_numbered valid (opensAll_self B r) converted
    have second := fieldParameters_numbered (convert_valid valid converted) restOk
    rw [first.known_eq] at second
    rw [slotsFields]
    exact first.append second

theorem parameters_numbered {root : Schema} {ps : List Parameter} (valid : r.Valid)
    (h : parameters c B root r = .ok (ps, r')) : r.Numbered r' (rootSlots B r.known (some root)) := by
  unfold parameters at h
  extract_lets at h
  rw [rootSlots]
  split at h
  · next fs resolved =>
    rw [resolved]
    exact fieldParameters_numbered valid h
  · cases h
  · next notObject notUnion =>
    obtain ⟨-, rfl⟩ := Prod.mk.inj (Except.ok.inj h)
    split
    · next fs resolved => exact (notObject fs resolved).elim
    · exact Numbered.nil valid

theorem objectOptions_numbered :
    ∀ {opts : List Schema} {r r' : Registry} {js : List Json}, r.Valid →
      objectOptions B opts r = .ok (js, r') → r.Numbered r' (slotsAll B r.known opts)
  | [], r, r', js, valid, h => by
    rcases objectOptions_eq_ok h with ⟨-, -, rfl⟩ | ⟨_, _, _, _, _, impossible, -⟩
    · rw [slotsAll]
      exact Numbered.nil valid
    · cases impossible
  | opt :: rest, r, r', js, valid, h => by
    rcases objectOptions_eq_ok h with
      ⟨impossible, -⟩ | ⟨fs, rest', j, r1, js', same, converted, restOk, -⟩
    · cases impossible
    · obtain ⟨rfl, rfl⟩ := List.cons.inj same
      have first := convert_numbered valid (opensAll_self B r) converted
      have second := objectOptions_numbered (convert_valid valid converted) restOk
      rw [first.known_eq] at second
      rw [slotsAll]
      exact first.append second

theorem bodySchema_numbered {root : Schema} {s : Json} (valid : r.Valid)
    (h : bodySchema B root r = .ok (s, r')) : r.Numbered r' (bodySlots B r.known (some root)) := by
  rcases bodySchema_eq_ok h with ⟨opts, js, rfl, options, -⟩ |
      ⟨n, name, r1, d, r2, rfl, reserved, converted, -, rfl⟩ | ⟨notUnion, notRecord, converted⟩
  · rw [bodySlots]
    exact objectOptions_numbered valid options
  · have numbered := convert_numbered (valid.of_reserve reserved (by simp)).1 (opensAll_self B r1) converted
    rw [bodySlots]
    exact Numbered.hoist_unkeyed (fun k => slots B k n) valid reserved rfl rfl numbered
      (convert_ne_placeholder converted)
  · -- Any other root is converted as a node of its own.
    have plain : bodySlots B r.known (some root) = slots B r.known root := by
      cases root with
      | union opts => exact absurd rfl (notUnion opts)
      | record n => exact absurd rfl (notRecord n)
      | _ => rfl
    rw [plain]
    exact convert_numbered valid (opensAll_self B r) converted

theorem optionalParameters_numbered {root : Option Schema} {ps : List Parameter} (valid : r.Valid)
    (h : optionalParameters c B root r = .ok (ps, r')) : r.Numbered r' (rootSlots B r.known root) := by
  cases root with
  | some n => exact parameters_numbered valid h
  | none =>
    simp only [optionalParameters, Except.ok.injEq, Prod.mk.injEq] at h
    rw [← h.2, rootSlots]
    exact Numbered.nil valid

theorem optionalBody_numbered {root : Option Schema} {body : Option Json} (valid : r.Valid)
    (h : optionalBody B root r = .ok (body, r')) : r.Numbered r' (bodySlots B r.known root) := by
  cases root with
  | some n =>
    simp only [optionalBody, Except.bind_eq_ok, Except.pure_eq_ok, Prod.exists, Prod.mk.injEq] at h
    obtain ⟨s, r1, schema, -, rfl⟩ := h
    exact bodySchema_numbered valid schema
  | none =>
    simp only [optionalBody, Except.ok.injEq, Prod.mk.injEq] at h
    rw [← h.2, bodySlots]
    exact Numbered.nil valid

theorem assemble_numbered {inputs : RouteInputs} {description : Option String} {op : Operation}
    (valid : r.Valid) (h : assemble B inputs description r = .ok (op, r')) :
    r.Numbered r' (routeSlots B r.known inputs) := by
  obtain ⟨ps, r1, body, r2, qs, params, bodyStep, query, -⟩ := assemble_eq_ok h
  have valid1 := optionalParameters_valid valid params
  have first := optionalParameters_numbered valid params
  have second := optionalBody_numbered valid1 bodyStep
  have third := optionalParameters_numbered (optionalBody_valid valid1 bodyStep) query
  rw [first.known_eq] at second
  rw [second.known_eq, first.known_eq] at third
  exact (first.append second).append third

/-- Converting a node from a valid registry whose counter has room for every numbered slot of the
node's walk succeeds and hands out exactly that walk, in order; a tuple, a union or a reference not
yet remembered comes back as the reference to the counter's own name, so its descendants all get
higher numbers. A remembered reference comes back as its reference and leaves the registry as it
was. A whole route hands out the fields of its params root, then its body, then the fields of its
query root. -/
theorem convert_numbers_components_in_preorder (c : Category) (B : Bodies) (n : Schema)
    (r : Registry) (valid : r.Valid)
    (room : r.next.toNat + (slots B r.known n).countP Slot.numbered ≤ lastIndex.toNat) :
    (∃ v r', convert c B n r = .ok (v, r') ∧ r.Numbered r' (slots B r.known n) ∧
      (r.hoists n = true → v = reference (typeName r.next.toNat))) ∧
    (∀ id name, r.lookup (.definition id) = some name →
      convert c B (.ref id) r = .ok (reference name, r)) ∧
    (∀ inputs description op r', assemble B inputs description r = .ok (op, r') →
      r.Numbered r' (routeSlots B r.known inputs)) := by
  refine ⟨?single, ?remembered, ?route⟩
  case single =>
    obtain ⟨v, r', converted⟩ := convert_succeeds valid (opensAll_self B r) room
    exact ⟨v, r', converted, convert_numbered valid (opensAll_self B r) converted,
      fun hoists => convert_hoisted_reference hoists converted⟩
  case remembered =>
    intro id name found
    exact convert_ref_eq_ok.2 (.inl ⟨name, found, rfl, rfl⟩)
  case route =>
    intro inputs description op r' assembled
    exact assemble_numbered valid assembled

/-- Two structurally equal unions side by side and two references, converted from the registry a
registration reached: the unions get components of their own, the reference the registry remembers
hands out nothing and comes back as its name, and only the other reference is numbered. -/
theorem equal_unions_numbered_apart :
    let m : Manifest :=
      { definitions := [("D", { kind := "bigint" })],
        routes := [{ method := .post, path := .literal "/a",
                     body := some { kind := "object",
                                    fields := some [("x", { kind := "ref", name := some "D" })] } }] }
    let r := ((Docs.new 1).register m).1.registry
    let pair : Schema := .union [.primitive .number, .primitive .null]
    let B : Bodies := [(0, .primitive .bigint), (1, .primitive .string)]
    let n : Schema := .object [("x", pair), ("y", pair), ("m", .ref 0), ("u", .ref 1)]
    r.Valid ∧ r.next.toNat + (slots B r.known n).countP Slot.numbered ≤ lastIndex.toNat ∧
      ((∃ v r', convert .body B n r = .ok (v, r') ∧ r.Numbered r' (slots B r.known n) ∧
          (r.hoists n = true → v = reference (typeName r.next.toNat))) ∧
        (∀ id name, r.lookup (.definition id) = some name →
          convert .body B (.ref id) r = .ok (reference name, r)) ∧
        (∀ inputs description op r', assemble B inputs description r = .ok (op, r') →
          r.Numbered r' (routeSlots B r.known inputs))) ∧
      slots B r.known n = [.union [.primitive .number, .primitive .null],
        .union [.primitive .number, .primitive .null], .definition 1] ∧
      convert .body B (.ref 0) r = .ok (reference "type1", r) := by
  intro m r pair B n
  have reachable : ((Docs.new 1).register m).1.Reachable 1 := .register m (.new _)
  have registered : r =
      ⟨1, 2, [("type1", .object [("type", .string "number"), ("description", .string "Type: bigint")])],
        [(.definition 0, "type1")]⟩ :=
    register_bigint_body_route
  have walk : slots B r.known n = [.union [.primitive .number, .primitive .null],
      .union [.primitive .number, .primitive .null], .definition 1] := by
    rw [registered]
    simp [n, pair, B, slots, slotsAll, slotsFields, known, lookup, knownAfter, expanded,
      Slot.definition?, List.lookup_cons, List.lookup_nil]
  have room : r.next.toNat + (slots B r.known n).countP Slot.numbered ≤ lastIndex.toNat := by
    rw [walk, registered]
    decide
  have remembered : r.lookup (.definition 0) = some "type1" := by
    rw [registered]
    rfl
  have numbered := convert_numbers_components_in_preorder .body B n r reachable.valid room
  exact ⟨reachable.valid, room, numbered, walk, numbered.2.1 0 "type1" remembered⟩

end OpenApiGen
