import OpenApiGen.Proofs.Schema.Numbering
import OpenApiGen.Proofs.Docs.Reachable

/-!
# The component counter never wraps

`Registry.Outcome` composes along `bind`, so every conversion succeeds exactly when the counter has
room for the slots its walk numbers and otherwise fails at `type4294967295`
(`counter_never_wraps`).
-/

namespace OpenApiGen

open Registry

/-! ## Walks and names -/

@[simp] theorem knownAfter_nil (known : DefinitionId → Bool) : knownAfter known [] = known := by
  funext i
  simp [knownAfter]

theorem knownAfter_append (known : DefinitionId → Bool) (s1 s2 : List Slot) :
    knownAfter known (s1 ++ s2) = knownAfter (knownAfter known s1) s2 := by
  funext i
  simp [knownAfter, Bool.or_assoc]

theorem knownAfter_plain (known : DefinitionId → Bool) {s : Slot} (plain : s.definition? = none) :
    knownAfter known [s] = known := by
  funext i
  simp [knownAfter, expanded, plain]

theorem knownAfter_definition (known : DefinitionId → Bool) (id : DefinitionId) :
    knownAfter known [.definition id] = fun j => known j || j == id := by
  funext j
  by_cases same : j = id <;> simp [knownAfter, expanded, Slot.definition?, same]

theorem toNat_le_lastIndex (x : UInt32) : x.toNat ≤ lastIndex.toNat := by
  have below : x.toNat < 4294967296 := x.toNat_lt
  show x.toNat ≤ 4294967295
  omega

theorem exists_named_iff {k m : Nat} {ss : List Slot} :
    (∃ s, (s, typeName m) ∈ named k ss) ↔ k ≤ m ∧ m < k + ss.countP Slot.numbered := by
  constructor
  · rintro ⟨s, member⟩
    rcases mem_named member with any | ⟨m', lower, upper, same⟩
    · exact absurd any (typeName_ne_anyTypeName m)
    · rw [typeName_injective same]
      exact ⟨lower, upper⟩
  · rintro ⟨lower, upper⟩
    have listed : typeName m ∈ ((named k ss).filter (fun p => p.1.numbered)).map Prod.snd := by
      rw [named_numbered]
      exact List.mem_map.2 ⟨m, List.mem_range'_1.2 ⟨lower, upper⟩, rfl⟩
    obtain ⟨⟨s, name⟩, member, rfl⟩ := List.mem_map.1 listed
    exact ⟨s, (List.mem_filter.1 member).1⟩

/-! ## Outcomes -/

namespace Registry

variable {γ δ : Type} {r r1 : Registry}

/-- What a computation from `r` whose walk hands out `ss` may give, reading the registry off its
result with `registry`: a registry whose counter has moved on by the numbered slots and whose
memo knows what the walk expanded, or the overflow, and that only when the counter has no room
for the numbered slots. -/
def Outcome (r : Registry) (ss : List Slot) (registry : γ → Registry) : Except Error γ → Prop
  | .ok x => (registry x).next.toNat = r.next.toNat + ss.countP Slot.numbered ∧
      (registry x).known = knownAfter r.known ss
  | .error e => e = .counterExhausted ∧ lastIndex.toNat < r.next.toNat + ss.countP Slot.numbered

theorem anyType_next : r.anyType.2.next = r.next := by
  rw [anyType_eq]
  split <;> rfl

theorem known_anyType : r.anyType.2.known = r.known := by
  funext i
  simp [known, lookup_anyType_definition]

theorem Outcome.unchanged {x : γ} {registry : γ → Registry} (same : registry x = r) :
    r.Outcome [] registry (.ok x) := by
  simp [Outcome, same]

theorem Outcome.register_none {x : γ} {registry : γ → Registry} {name : String} {d : Json}
    (filled : registry x = r.register none name d) : r.Outcome [] registry (.ok x) := by
  refine ⟨by simp [filled], ?_⟩
  funext i
  simp [known, filled]

theorem Outcome.bind {ss s1 : List Slot} (s2 : (DefinitionId → Bool) → List Slot)
    {p : γ → Registry} {q : δ → Registry} {x : Except Error γ} {f : γ → Except Error δ}
    (walk : ss = s1 ++ s2 (knownAfter r.known s1)) (first : r.Outcome s1 p x)
    (second : ∀ a, x = .ok a → (p a).Outcome (s2 (p a).known) q (f a)) :
    r.Outcome ss q (x >>= f) := by
  subst walk
  cases x with
  | error e =>
    obtain ⟨rfl, full⟩ := first
    refine ⟨rfl, ?_⟩
    rw [List.countP_append]
    omega
  | ok a =>
    obtain ⟨next1, known1⟩ := first
    have rest := second a rfl
    rw [known1] at rest
    show r.Outcome _ q (f a)
    cases result : f a with
    | error e =>
      rw [result] at rest
      obtain ⟨rfl, full⟩ := rest
      refine ⟨rfl, ?_⟩
      rw [List.countP_append]
      omega
    | ok b =>
      rw [result] at rest
      obtain ⟨next2, known2⟩ := rest
      refine ⟨?_, ?_⟩
      · rw [next2, next1, List.countP_append]
        omega
      · rw [known2, known1, knownAfter_append]

theorem Outcome.map_register {ss : List Slot} {x : Except Error (Json × Registry)} {v : Json}
    {name : String} (inner : r.Outcome ss Prod.snd x) :
    r.Outcome ss Prod.snd (x.map fun q => (v, q.2.register none name q.1)) := by
  cases x with
  | error e => exact inner
  | ok a =>
    obtain ⟨next1, known1⟩ := inner
    refine ⟨by simpa using next1, ?_⟩
    rw [← known1]
    funext i
    simp [known]

theorem reserve_eq_error {key : Option ComponentKey} {e : Error} :
    r.reserve key = .error e ↔ r.next = lastIndex ∧ e = .counterExhausted := by
  simp only [reserve, allocate]
  split
  · next full => simp [full, bind, Except.bind, eq_comm]
  · next room => simp [room, bind, Except.bind, pure, Except.pure]

theorem Outcome.reserve (s : Slot) {key : Option ComponentKey}
    (keyed : key = s.definition?.map ComponentKey.definition) (numbered : s.numbered = true) :
    r.Outcome [s] Prod.snd (r.reserve key) := by
  cases reserved : r.reserve key with
  | error e =>
    obtain ⟨full, rfl⟩ := reserve_eq_error.1 reserved
    refine ⟨rfl, ?_⟩
    simp [full, numbered]
  | ok p =>
    obtain ⟨name, r1⟩ := p
    refine ⟨by simp [next_reserve reserved, numbered], ?_⟩
    funext i
    cases s with
    | definition id =>
      simp only [Slot.definition?, Option.map_some] at keyed
      subst keyed
      by_cases same : i = id
      · simp [known, lookup_reserve reserved, knownAfter, expanded, Slot.definition?, same]
      · simp [known, lookup_reserve reserved, knownAfter, expanded, Slot.definition?, same,
          Ne.symm same]
    | _ =>
      simp only [Slot.definition?, Option.map_none] at keyed
      subst keyed
      simp [known, lookup_reserve reserved, knownAfter, expanded, Slot.definition?]

end Registry

/-! ## Every conversion has the outcome of its walk -/

theorem OpensAll.of_outcome {B o : Bodies} {r : Registry} {ss : List Slot} {γ : Type}
    {p : γ → Registry} {a : γ} (opens : OpensAll B o r) (outcome : r.Outcome ss p (.ok a)) :
    OpensAll B o (p a) := by
  intro j unknown
  apply opens j
  have later : (p a).known j = false := by simp [known, unknown]
  rw [outcome.2] at later
  simp only [knownAfter, Bool.or_eq_false_iff] at later
  simpa [known] using later.1

variable {c : Category} {B : Bodies}

theorem convert_outcome_all :
    (∀ o n r, OpensAll B o r → r.Outcome (slots B r.known n) Prod.snd (convert c o n r)) ∧
    (∀ o ns r, OpensAll B o r →
      r.Outcome (slotsAll B r.known ns) Prod.snd (convertAll c o ns r)) ∧
    (∀ o fs r, OpensAll B o r →
      r.Outcome (slotsFields B r.known fs) (fun t => t.2.2) (convertFields c o fs r)) := by
  refine convert.mutual_induct
    (fun o n r => OpensAll B o r → r.Outcome (slots B r.known n) Prod.snd (convert c o n r))
    (fun o ns r => OpensAll B o r →
      r.Outcome (slotsAll B r.known ns) Prod.snd (convertAll c o ns r))
    (fun o fs r => OpensAll B o r →
      r.Outcome (slotsFields B r.known fs) (fun t => t.2.2) (convertFields c o fs r))
    ?primitive ?object ?array ?tuple ?union ?enum ?record ?hit ?miss ?other ?allNil ?allCons
    ?fieldsNil ?fieldsCons
  case primitive =>
    intro o p r opens
    rw [convert, slots]
    by_cases shared : p = .any ∨ p = .unknown
    · -- `anyType` takes no number and remembers no definition
      have stored : (primitiveSchema c p r).2 = r.anyType.2 := by
        simpa [shared] using primitiveSchema_registry p
      rw [if_pos shared]
      exact ⟨by simp [stored, anyType_next, Slot.numbered],
        by rw [stored, known_anyType, knownAfter_plain _ rfl]⟩
    · have stored : (primitiveSchema c p r).2 = r := by
        simpa [shared] using primitiveSchema_registry p
      rw [if_neg shared]
      exact Outcome.unchanged stored
  case object =>
    intro o fs r fields opens
    rw [convert]
    exact Outcome.bind (fun _ => []) (by simp [slots]) (fields opens)
      fun _ _ => Outcome.unchanged rfl
  case array =>
    intro o el r element opens
    rw [convert]
    exact Outcome.bind (fun _ => []) (by simp [slots]) (element opens)
      fun _ _ => Outcome.unchanged rfl
  case tuple =>
    intro o els r elements opens
    rw [convert]
    refine Outcome.bind (fun k => slotsAll B k els) (by rw [slots, knownAfter_plain _ rfl]; rfl)
      (Outcome.reserve (.tuple els) rfl rfl) fun a reserved => ?_
    obtain ⟨name, r1⟩ := a
    exact Outcome.bind (fun _ => []) (by simp) (elements r1 (opens.reserve_none reserved))
      fun _ _ => Outcome.register_none rfl
  case union =>
    intro o opts r options opens
    rw [convert]
    refine Outcome.bind (fun k => slotsAll B k opts) (by rw [slots, knownAfter_plain _ rfl]; rfl)
      (Outcome.reserve (.union opts) rfl rfl) fun a reserved => ?_
    obtain ⟨name, r1⟩ := a
    exact Outcome.bind (fun _ => []) (by simp) (options r1 (opens.reserve_none reserved))
      fun _ _ => Outcome.register_none rfl
  case enum =>
    intro o vals r opens
    rw [convert, slots]
    exact Outcome.unchanged rfl
  case record =>
    intro o n r inner opens
    rw [convert, slots]
    exact inner opens
  case hit =>
    intro o id r name found opens
    rw [convert_ref_eq_ok.2 (.inl ⟨name, found, rfl, rfl⟩),
      slots_ref_known (by simp [known, found])]
    exact Outcome.unchanged rfl
  case miss =>
    intro o id r missing body opens
    have unknown : r.known id = false := by simp [known, missing]
    rw [convert_ref_unremembered missing]
    cases taken : o.take? id with
    | none =>
      have undefined : B.lookup id = none := by
        cases found : B.lookup id with
        | none => rfl
        | some b =>
          obtain ⟨rest, present⟩ := Bodies.take?_of_lookup ((opens id missing).trans found)
          rw [present] at taken
          cases taken
      rw [slots_ref_undefined unknown undefined]
      refine Outcome.bind (fun _ => []) (by simp) (Outcome.reserve (.definition id) rfl rfl)
        fun a _ => ?_
      exact Outcome.map_register (Outcome.unchanged rfl)
    | some entry =>
      obtain ⟨b, rest⟩ := entry
      have found : B.lookup id = some b :=
        (opens id missing).symm.trans (Bodies.take?_eq_some taken).1
      rw [slots_ref_body unknown found]
      refine Outcome.bind (fun k => slots B k b) (by simp [knownAfter_definition])
        (Outcome.reserve (.definition id) rfl rfl) fun a reserved => ?_
      obtain ⟨name, r1⟩ := a
      exact Outcome.map_register (body r1 b rest taken (opens.take taken reserved))
  case other =>
    intro o k r opens
    rw [convert, slots]
    exact Outcome.unchanged rfl
  case allNil =>
    intro o r opens
    rw [convertAll, slotsAll]
    exact Outcome.unchanged rfl
  case allCons =>
    intro o n rest r head tail opens
    rw [convertAll, slotsAll]
    refine Outcome.bind (fun k => slotsAll B k rest) rfl (head opens) fun a headOk => ?_
    obtain ⟨j, r1⟩ := a
    have opens1 := opens.of_outcome (headOk ▸ head opens)
    exact Outcome.bind (fun _ => []) (by simp) (tail r1 opens1) fun _ _ => Outcome.unchanged rfl
  case fieldsNil =>
    intro o r opens
    rw [convertFields, slotsFields]
    exact Outcome.unchanged rfl
  case fieldsCons =>
    intro o k n rest r head tail opens
    rw [convertFields, slotsFields]
    refine Outcome.bind (fun k => slotsFields B k rest) rfl (head opens) fun a headOk => ?_
    obtain ⟨j, r1⟩ := a
    have opens1 := opens.of_outcome (headOk ▸ head opens)
    exact Outcome.bind (fun _ => []) (by simp) (tail r1 opens1) fun _ _ => Outcome.unchanged rfl

theorem convert_outcome (c : Category) (o : Bodies) (n : Schema) (r : Registry)
    (opens : OpensAll B o r) : r.Outcome (slots B r.known n) Prod.snd (convert c o n r) :=
  convert_outcome_all.1 o n r opens

/-! ## Room on the counter -/

variable {n : Schema} {r : Registry}

theorem convert_ok_iff_room :
    (∃ v r', convert c B n r = .ok (v, r')) ↔
      r.next.toNat + (slots B r.known n).countP Slot.numbered ≤ lastIndex.toNat := by
  have outcome := convert_outcome c B n r (opensAll_self B r)
  cases converted : convert c B n r with
  | ok result =>
    obtain ⟨v, r'⟩ := result
    rw [converted] at outcome
    have bound := toNat_le_lastIndex r'.next
    exact iff_of_true ⟨v, r', rfl⟩ (by rw [← outcome.1]; exact bound)
  | error e =>
    rw [converted] at outcome
    have full := outcome.2
    exact iff_of_false (by simp) (by omega)

theorem convert_overflow
    (full : lastIndex.toNat < r.next.toNat + (slots B r.known n).countP Slot.numbered) :
    convert c B n r = .error .counterExhausted := by
  have outcome := convert_outcome c B n r (opensAll_self B r)
  cases converted : convert c B n r with
  | ok result =>
    have := convert_ok_iff_room.1 ⟨result.1, result.2, converted⟩
    omega
  | error e =>
    rw [converted] at outcome
    rw [outcome.1]

theorem Registry.Valid.typeName_lastIndex_not_mem {r : Registry} (valid : r.Valid) :
    typeName lastIndex.toNat ∉ r.schemas.keys := by
  rw [valid.mem_keys_iff]
  rintro (⟨equal, -⟩ | ⟨m, -, upper, equal⟩)
  · exact typeName_ne_anyTypeName _ equal
  · have := typeName_injective equal
    have := toNat_le_lastIndex r.next
    omega

/-- The component counter never wraps. From any registry, converting a node succeeds exactly when
the counter has room for every component its walk numbers; it then moves the counter on by that
many, and none of the names the walk hands out is `type4294967295`. Otherwise the conversion fails
with the overflow, at the slot of the walk that would take that name. In every state a run
reaches, the counter lies between the run's first index and its last value and no component is
named `type4294967295`; a reset brings the counter back and a registration, whose failed routes
are undone, never does. -/
theorem counter_never_wraps :
    (∀ (c : Category) (B : Bodies) (n : Schema) (r : Registry),
      ((∃ v r', convert c B n r = .ok (v, r')) ↔
          r.next.toNat + (slots B r.known n).countP Slot.numbered ≤ lastIndex.toNat) ∧
      (∀ v r', convert c B n r = .ok (v, r') →
          r'.next.toNat = r.next.toNat + (slots B r.known n).countP Slot.numbered ∧
          ∀ p ∈ named r.next.toNat (slots B r.known n), p.2 ≠ typeName lastIndex.toNat) ∧
      (lastIndex.toNat < r.next.toNat + (slots B r.known n).countP Slot.numbered →
          convert c B n r = .error .counterExhausted ∧
          ∃ s, (s, typeName lastIndex.toNat) ∈ named r.next.toNat (slots B r.known n))) ∧
    (∀ (first : UInt32) (d : Docs), d.Reachable first →
      first.toNat ≤ d.registry.next.toNat ∧ d.registry.next.toNat ≤ lastIndex.toNat ∧
      typeName lastIndex.toNat ∉ d.registry.schemas.keys ∧
      d.reset.registry.next.toNat ≤ d.registry.next.toNat ∧
      ∀ m, d.registry.next.toNat ≤ (d.register m).1.registry.next.toNat) := by
  refine ⟨fun c B n r => ⟨convert_ok_iff_room, ?finished, ?overflow⟩, ?run⟩
  case finished =>
    intro v r' converted
    have outcome := convert_outcome c B n r (opensAll_self B r)
    rw [converted] at outcome
    have room := convert_ok_iff_room.1 ⟨v, r', converted⟩
    refine ⟨outcome.1, fun p member issued => ?_⟩
    rcases mem_named member with any | ⟨m, -, upper, generated⟩
    · exact typeName_ne_anyTypeName _ (issued ▸ any)
    · have := typeName_injective (issued.symm.trans generated)
      omega
  case overflow =>
    intro full
    exact ⟨convert_overflow full, exists_named_iff.2 ⟨toNat_le_lastIndex r.next, by omega⟩⟩
  case run =>
    intro first d reachable
    have valid := reachable.valid
    have started : d.registry.first = first := reachable.first_eq
    refine ⟨started ▸ valid.first_le, toNat_le_lastIndex _, valid.typeName_lastIndex_not_mem,
      ?_, fun m => (register_grows m d).next_le⟩
    -- a reset restarts the counter at the first index
    show (Registry.new d.registry.first).next.toNat ≤ d.registry.next.toNat
    exact valid.first_le

/-- A union inside a union, converted from the counter 4294967294: the outer union takes the last
name there is room for and the inner one would be `type4294967295`, so the conversion overflows. A
run from there that registers a route with that union in its body keeps its counter in range. -/
theorem nested_union_overflows :
    let r := Registry.new 4294967294
    let n : Schema := .union [.union []]
    let pair : NodeDoc :=
      { kind := "union", options := some [{ kind := "union", options := some [] }] }
    let m : Manifest :=
      { routes := [{ method := .post, path := .literal "/a",
                     body := some { kind := "object", fields := some [("x", pair)] } }] }
    let d := ((Docs.new 4294967294).register m).1
    (lastIndex.toNat < r.next.toNat + (slots [] r.known n).countP Slot.numbered ∧
      convert .body [] n r = .error .counterExhausted ∧
      ∃ s, (s, typeName lastIndex.toNat) ∈ named r.next.toNat (slots [] r.known n)) ∧
    (d.Reachable 4294967294 ∧
      (4294967294 : UInt32).toNat ≤ d.registry.next.toNat ∧
      d.registry.next.toNat ≤ lastIndex.toNat ∧
      typeName lastIndex.toNat ∉ d.registry.schemas.keys ∧
      d.reset.registry.next.toNat ≤ d.registry.next.toNat ∧
      ∀ m, d.registry.next.toNat ≤ (d.register m).1.registry.next.toNat) := by
  intro r n pair m d
  have full : lastIndex.toNat < r.next.toNat + (slots [] r.known n).countP Slot.numbered := by
    simp [r, n, slots, slotsAll, Registry.new]
    decide
  have reachable : d.Reachable 4294967294 := .register m (.new _)
  exact ⟨⟨full, (counter_never_wraps.1 .body [] n r).2.2 full⟩, reachable,
    counter_never_wraps.2 _ d reachable⟩

end OpenApiGen
