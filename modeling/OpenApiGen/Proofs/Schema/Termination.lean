import OpenApiGen.Proofs.Schema.Numbering

/-!
# Lazy definitions and lazy roots terminate

`convertLazy` expands references from the full table, guarded only by the memo, and `resolveLazy`
follows a root through references, each under a budget. A budget past the sizes involved is never
exhausted, and they then compute `convert` and `resolveRoot`.
-/

namespace OpenApiGen

def liftStep {α : Type} (x : Except Error α) : ExceptT Error Option α := ExceptT.mk (some x)

mutual

def convertLazy (c : Category) (B : Bodies) : Nat → Schema → Registry →
    ExceptT Error Option (Json × Registry × List DefinitionId)
  | 0, _, _ => ExceptT.mk none
  | _ + 1, .primitive p, r => pure ((primitiveSchema c p r).1, (primitiveSchema c p r).2, [])
  | fuel + 1, .object fs, r => do
    let (props, req, r', log) ← convertFieldsLazy c B fuel fs r
    pure (objectSchema props req, r', log)
  | fuel + 1, .array el, r => do
    let (items, r', log) ← convertLazy c B fuel el r
    pure (.object [("type", .string "array"), ("items", items)], r', log)
  | fuel + 1, .tuple els, r => do
    let (name, r1) ← liftStep (r.reserve none)
    let (items, r2, log) ← convertAllLazy c B fuel els r1
    let definition := .object [("type", .string "array"),
      ("items", .object [("anyOf", .array items)])]
    pure (reference name, r2.register none name definition, log)
  | fuel + 1, .union opts, r => do
    let (name, r1) ← liftStep (r.reserve none)
    let (items, r2, log) ← convertAllLazy c B fuel opts r1
    pure (reference name, r2.register none name (.object [("anyOf", .array items)]), log)
  | _ + 1, .enum vals, r =>
    pure (.object [("type", .string "enum"), ("enum", .array (vals.map Literal.toJson))], r, [])
  | fuel + 1, .record v, r => convertLazy c B fuel v r
  | fuel + 1, .ref id, r =>
    match r.lookup (.definition id) with
    | some name => pure (reference name, r, [])
    | none => do
      let (name, r1) ← liftStep (r.reserve (some (.definition id)))
      let (definition, r2, log) ← match B.lookup id with
        | some body => convertLazy c B fuel body r1
        | none => pure (typeOnly "ref", r1, [])
      pure (reference name, r2.register none name definition, id :: log)
  | _ + 1, .other k, r => pure (typeOnly k, r, [])

def convertAllLazy (c : Category) (B : Bodies) : Nat → List Schema → Registry →
    ExceptT Error Option (List Json × Registry × List DefinitionId)
  | 0, _, _ => ExceptT.mk none
  | _ + 1, [], r => pure ([], r, [])
  | fuel + 1, n :: rest, r => do
    let (j, r1, log1) ← convertLazy c B fuel n r
    let (js, r2, log2) ← convertAllLazy c B fuel rest r1
    pure (j :: js, r2, log1 ++ log2)

def convertFieldsLazy (c : Category) (B : Bodies) : Nat → List (String × Schema) → Registry →
    ExceptT Error Option (Fields × List String × Registry × List DefinitionId)
  | 0, _, _ => ExceptT.mk none
  | _ + 1, [], r => pure ([], [], r, [])
  | fuel + 1, (k, n) :: rest, r => do
    let (j, r1, log1) ← convertLazy c B fuel n r
    let (props, req, r2, log2) ← convertFieldsLazy c B fuel rest r1
    pure ((k, j) :: props, (if n.isRequired then k :: req else req), r2, log1 ++ log2)

end

theorem run_liftStep {α : Type} (x : Except Error α) : (liftStep x).run = some x := rfl

theorem Bodies.sizeOf_take? {bs rest : Bodies} {id : DefinitionId} {b : Schema}
    (taken : bs.take? id = some (b, rest)) : sizeOf rest + sizeOf b < sizeOf bs := by
  induction bs generalizing b rest with
  | nil => simp [Bodies.take?] at taken
  | cons entry bs ih =>
    obtain ⟨i, body⟩ := entry
    simp only [Bodies.take?] at taken
    split at taken
    · simp only [Option.some.injEq, Prod.mk.injEq] at taken
      obtain ⟨rfl, rfl⟩ := taken
      simp
      omega
    · split at taken
      · simp at taken
      · next found others found_eq =>
        simp only [Option.some.injEq, Prod.mk.injEq] at taken
        obtain ⟨rfl, rfl⟩ := taken
        have := ih found_eq
        simp
        omega

open Registry in
theorem convertLazy_eq_all :
    (∀ o n r, r.Valid → OpensAll B o r → ∀ fuel, sizeOf n + sizeOf o < fuel →
      (convertLazy c B fuel n r).run =
        some ((convert c o n r).map fun p => (p.1, p.2, expanded (slots B r.known n)))) ∧
    (∀ o ns r, r.Valid → OpensAll B o r → ∀ fuel, sizeOf ns + sizeOf o < fuel →
      (convertAllLazy c B fuel ns r).run =
        some ((convertAll c o ns r).map fun p => (p.1, p.2, expanded (slotsAll B r.known ns)))) ∧
    (∀ o fs r, r.Valid → OpensAll B o r → ∀ fuel, sizeOf fs + sizeOf o < fuel →
      (convertFieldsLazy c B fuel fs r).run =
        some ((convertFields c o fs r).map
          fun p => (p.1, p.2.1, p.2.2, expanded (slotsFields B r.known fs)))) := by
  refine convert.mutual_induct
    (fun o n r => r.Valid → OpensAll B o r → ∀ fuel, sizeOf n + sizeOf o < fuel →
      (convertLazy c B fuel n r).run =
        some ((convert c o n r).map fun p => (p.1, p.2, expanded (slots B r.known n))))
    (fun o ns r => r.Valid → OpensAll B o r → ∀ fuel, sizeOf ns + sizeOf o < fuel →
      (convertAllLazy c B fuel ns r).run =
        some ((convertAll c o ns r).map fun p => (p.1, p.2, expanded (slotsAll B r.known ns))))
    (fun o fs r => r.Valid → OpensAll B o r → ∀ fuel, sizeOf fs + sizeOf o < fuel →
      (convertFieldsLazy c B fuel fs r).run =
        some ((convertFields c o fs r).map
          fun p => (p.1, p.2.1, p.2.2, expanded (slotsFields B r.known fs))))
    ?primitive ?object ?array ?tuple ?union ?enum ?record ?hit ?miss ?other ?allNil ?allCons
    ?fieldsNil ?fieldsCons
  -- Each case spends one unit of the budget and passes the rest to its children, whose sizes
  -- (with the open bodies left to them) are smaller than the node's.
  case primitive =>
    intro o p r valid opens fuel enough
    obtain ⟨f, rfl⟩ : ∃ f, fuel = f + 1 := ⟨fuel - 1, by omega⟩
    rw [convertLazy, convert, slots]
    split <;> rfl
  case object =>
    intro o fs r fields valid opens fuel enough
    obtain ⟨f, rfl⟩ : ∃ f, fuel = f + 1 := ⟨fuel - 1, by omega⟩
    rw [convertLazy, convert, slots]
    simp only [ExceptT.run_bind, fields valid opens f (by simp at enough; omega)]
    cases convertFields c o fs r <;> rfl
  case array =>
    intro o el r element valid opens fuel enough
    obtain ⟨f, rfl⟩ : ∃ f, fuel = f + 1 := ⟨fuel - 1, by omega⟩
    rw [convertLazy, convert, slots]
    simp only [ExceptT.run_bind, element valid opens f (by simp at enough; omega)]
    cases convert c o el r <;> rfl
  case tuple =>
    intro o els r elements valid opens fuel enough
    obtain ⟨f, rfl⟩ : ∃ f, fuel = f + 1 := ⟨fuel - 1, by omega⟩
    rw [convertLazy, convert, slots, expanded_cons]
    simp only [ExceptT.run_bind, run_liftStep]
    cases reserved : r.reserve none with
    | error e => rfl
    | ok step =>
      obtain ⟨name, r1⟩ := step
      have known1 := known_reserve_none reserved
      simp only [Option.bind_some, elements r1 (valid.of_reserve reserved (by simp)).1
        (opens.reserve_none reserved) f (by simp at enough; omega), known1, bind, Except.bind,
        Slot.definition?, Option.toList, List.nil_append]
      cases convertAll c o els r1 <;> rfl
  case union =>
    intro o opts r options valid opens fuel enough
    obtain ⟨f, rfl⟩ : ∃ f, fuel = f + 1 := ⟨fuel - 1, by omega⟩
    rw [convertLazy, convert, slots, expanded_cons]
    simp only [ExceptT.run_bind, run_liftStep]
    cases reserved : r.reserve none with
    | error e => rfl
    | ok step =>
      obtain ⟨name, r1⟩ := step
      have known1 := known_reserve_none reserved
      simp only [Option.bind_some, options r1 (valid.of_reserve reserved (by simp)).1
        (opens.reserve_none reserved) f (by simp at enough; omega), known1, bind, Except.bind,
        Slot.definition?, Option.toList, List.nil_append]
      cases convertAll c o opts r1 <;> rfl
  case enum =>
    intro o vals r valid opens fuel enough
    obtain ⟨f, rfl⟩ : ∃ f, fuel = f + 1 := ⟨fuel - 1, by omega⟩
    rw [convertLazy, convert, slots]
    rfl
  case record =>
    intro o v r inner valid opens fuel enough
    obtain ⟨f, rfl⟩ : ∃ f, fuel = f + 1 := ⟨fuel - 1, by omega⟩
    rw [convertLazy, convert, slots]
    exact inner valid opens f (by simp at enough; omega)
  case hit =>
    intro o id r name found valid opens fuel enough
    obtain ⟨f, rfl⟩ : ∃ f, fuel = f + 1 := ⟨fuel - 1, by omega⟩
    rw [convertLazy, convert, slots_ref_known (by simp [known, found])]
    simp only [found]
    rfl
  case miss =>
    intro o id r missing body valid opens fuel enough
    obtain ⟨f, rfl⟩ : ∃ f, fuel = f + 1 := ⟨fuel - 1, by omega⟩
    have unknown : r.known id = false := by simp [known, missing]
    rw [convertLazy, convert_ref_unremembered missing]
    simp only [missing, ExceptT.run_bind, run_liftStep]
    cases reserved : r.reserve (some (.definition id)) with
    | error e => rfl
    | ok step =>
      obtain ⟨name, r1⟩ := step
      have valid1 := (valid.of_reserve reserved (by simp)).1
      simp only [Except.bind]
      cases found : B.lookup id with
      | none =>
        -- an undefined reference: nothing is taken on either side
        have notTaken : o.take? id = none := by
          cases taken : o.take? id with
          | none => rfl
          | some entry =>
            have defined := (opens id missing).symm.trans (Bodies.take?_eq_some taken).1
            rw [found] at defined
            cases defined
        rw [slots_ref_undefined unknown found]
        simp only [notTaken]
        rfl
      | some b =>
        obtain ⟨rest, taken⟩ := Bodies.take?_of_lookup ((opens id missing).trans found)
        have smaller := Bodies.sizeOf_take? taken
        have inner := body r1 b rest taken valid1 (opens.take taken reserved) f
          (by simp at enough; omega)
        rw [known_reserve_definition reserved] at inner
        rw [slots_ref_body unknown found]
        simp only [taken, Option.bind_eq_bind, Option.bind_some, ExceptT.run_bind, inner]
        cases convert c rest b r1 <;> rfl
  case other =>
    intro o k r valid opens fuel enough
    obtain ⟨f, rfl⟩ : ∃ f, fuel = f + 1 := ⟨fuel - 1, by omega⟩
    rw [convertLazy, convert, slots]
    rfl
  case allNil =>
    intro o r valid opens fuel enough
    obtain ⟨f, rfl⟩ : ∃ f, fuel = f + 1 := ⟨fuel - 1, by omega⟩
    rw [convertAllLazy, convertAll, slotsAll]
    rfl
  case allCons =>
    intro o n rest r head tail valid opens fuel enough
    obtain ⟨f, rfl⟩ : ∃ f, fuel = f + 1 := ⟨fuel - 1, by omega⟩
    rw [convertAllLazy, convertAll, slotsAll]
    simp only [ExceptT.run_bind, head valid opens f (by simp at enough; omega)]
    cases converted : convert c o n r with
    | error e => rfl
    | ok step =>
      obtain ⟨j, r1⟩ := step
      have first := convert_numbered valid opens converted
      simp only [Except.map, Option.bind_some, tail r1 (convert_valid valid converted)
        (opens.numbered first) f (by simp at enough; omega), first.known_eq, bind, Except.bind]
      simp only [expanded_append]
      cases convertAll c o rest r1 <;> rfl
  case fieldsNil =>
    intro o r valid opens fuel enough
    obtain ⟨f, rfl⟩ : ∃ f, fuel = f + 1 := ⟨fuel - 1, by omega⟩
    rw [convertFieldsLazy, convertFields, slotsFields]
    rfl
  case fieldsCons =>
    intro o k n rest r head tail valid opens fuel enough
    obtain ⟨f, rfl⟩ : ∃ f, fuel = f + 1 := ⟨fuel - 1, by omega⟩
    rw [convertFieldsLazy, convertFields, slotsFields]
    simp only [ExceptT.run_bind, head valid opens f (by simp at enough; omega)]
    cases converted : convert c o n r with
    | error e => rfl
    | ok step =>
      obtain ⟨j, r1⟩ := step
      have first := convert_numbered valid opens converted
      simp only [Except.map, Option.bind_some, tail r1 (convert_valid valid converted)
        (opens.numbered first) f (by simp at enough; omega), first.known_eq, bind, Except.bind]
      simp only [expanded_append]
      cases convertFields c o rest r1 <;> rfl

theorem convertLazy_eq (valid : r.Valid) (opens : OpensAll B o r) (n : Schema) {fuel : Nat}
    (enough : sizeOf n + sizeOf o < fuel) :
    (convertLazy c B fuel n r).run =
      some ((convert c o n r).map fun p => (p.1, p.2, expanded (slots B r.known n))) :=
  convertLazy_eq_all.1 o n r valid opens fuel enough

theorem nodup_expanded_all :
    (∀ known n, (expanded (slots B known n)).Nodup) ∧
    (∀ known ns, (expanded (slotsAll B known ns)).Nodup) ∧
    (∀ known fs, (expanded (slotsFields B known fs)).Nodup) := by
  refine slots.mutual_induct B
    (fun known n => (expanded (slots B known n)).Nodup)
    (fun known ns => (expanded (slotsAll B known ns)).Nodup)
    (fun known fs => (expanded (slotsFields B known fs)).Nodup)
    ?any ?plain ?object ?array ?tuple ?union ?enum ?record ?known ?fresh ?other
    ?allNil ?allCons ?fieldsNil ?fieldsCons
  all_goals intros
  case any known p any =>
    rw [slots, if_pos any]
    exact List.nodup_nil
  case plain known p plain => simp [slots, plain]
  case object known fs fields => rwa [slots]
  case array known el element => rwa [slots]
  case tuple known els elements => simpa [slots, expanded_cons, Slot.definition?] using elements
  case union known opts options => simpa [slots, expanded_cons, Slot.definition?] using options
  case enum known vals => simp [slots]
  case record known v inner => rwa [slots]
  case known known id h => simp [slots_ref_known h]
  case fresh known id fresh inner =>
    have unknown : known id = false := by simpa using fresh
    cases found : B.lookup id with
    | none => simp [slots_ref_undefined unknown found, expanded, Slot.definition?]
    | some body =>
      rw [slots_ref_body unknown found, expanded_cons]
      -- the body's walk knows `id`, so it does not expand it again
      have again : id ∉ expanded (slots B (fun j => known j || j == id) body) := fun member => by
        simpa using expanded_slots_unknown member
      simpa [Slot.definition?, again] using inner body found
  case other known k => simp [slots]
  case allNil known => simp [slotsAll]
  case allCons known n rest s head tail =>
    rw [slotsAll, expanded_append]
    refine head.append tail fun i early late => ?_
    have := expanded_slots_all.2.1 _ rest i late
    simp [knownAfter, early] at this
  case fieldsNil known => simp [slotsFields]
  case fieldsCons known k n rest s head tail =>
    rw [slotsFields, expanded_append]
    refine head.append tail fun i early late => ?_
    have := expanded_slots_all.2.2 _ rest i late
    simp [knownAfter, early] at this

/-! ## The root loop -/

/-- The source's loop over a params or query root, for at most `fuel` rounds: follow references
through the full table, remembering the definitions resolved, and give up when one comes back. It
gives the node reached, if any, and the definitions resolved (latest first). -/
def resolveLazy (B : Bodies) : Nat → List DefinitionId → Schema →
    Option (Option Schema × List DefinitionId)
  | 0, _, _ => none
  | fuel + 1, seen, .ref id =>
    if id ∈ seen then some (none, seen)
    else match B.lookup id with
      | some body => resolveLazy B fuel (id :: seen) body
      | none => some (none, seen)
  | _ + 1, seen, n => some (some n, seen)

theorem Bodies.keys_take? {bs rest : Bodies} {id : DefinitionId} {b : Schema}
    (taken : bs.take? id = some (b, rest)) : rest.map Prod.fst = (bs.map Prod.fst).erase id := by
  induction bs generalizing b rest with
  | nil => simp [Bodies.take?] at taken
  | cons entry bs ih =>
    obtain ⟨i, body⟩ := entry
    simp only [Bodies.take?] at taken
    split at taken
    · next same =>
      simp only [beq_iff_eq] at same
      simp only [Option.some.injEq, Prod.mk.injEq] at taken
      obtain ⟨rfl, rfl⟩ := taken
      subst same
      simp
    · next differ =>
      split at taken
      · simp at taken
      · next found others found_eq =>
        simp only [Option.some.injEq, Prod.mk.injEq] at taken
        obtain ⟨rfl, rfl⟩ := taken
        rw [List.map_cons, List.map_cons, List.erase_cons_tail (by simpa using differ), ih found_eq]

/-- The open bodies the model's loop still holds: those of the full table not resolved yet, each
definition once. -/
structure Unresolved (B o : Bodies) (seen : List DefinitionId) : Prop where
  lookup : ∀ j, o.lookup j = if j ∈ seen then none else B.lookup j
  distinct : (o.map Prod.fst).Nodup

theorem Unresolved.take (unresolved : Unresolved B o seen) {id : DefinitionId} {b : Schema}
    {rest : Bodies} (taken : o.take? id = some (b, rest)) : Unresolved B rest (id :: seen) where
  lookup j := by
    by_cases same : j = id
    · subst same
      have gone : j ∉ rest.map Prod.fst := by
        rw [Bodies.keys_take? taken]
        exact unresolved.distinct.not_mem_erase
      simp only [List.mem_cons, true_or, if_true]
      cases found : rest.lookup j with
      | none => rfl
      | some b' => exact absurd (List.mem_map_of_mem (List.mem_of_lookup_eq_some found)) gone
    · rw [(Bodies.take?_eq_some taken).2 j same, unresolved.lookup j]
      simp [same]
  distinct := by
    rw [Bodies.keys_take? taken]
    exact unresolved.distinct.erase id

theorem resolveRoot_ref_taken {id : DefinitionId} {b : Schema} {rest : Bodies}
    (taken : o.take? id = some (b, rest)) : resolveRoot o (.ref id) = resolveRoot rest b := by
  rw [resolveRoot]
  split <;> simp_all

theorem resolveRoot_ref_absent {id : DefinitionId} (absent : o.take? id = none) :
    resolveRoot o (.ref id) = none := by
  rw [resolveRoot]
  split <;> simp_all

theorem resolveRoot_of_not_ref {n : Schema} (notRef : ∀ id, n = .ref id → False) :
    resolveRoot o n = some n := by
  cases n <;> first | exact absurd rfl (notRef _) | (rw [resolveRoot]; exact notRef)

theorem resolveLazy_of_not_ref {fuel : Nat} {seen : List DefinitionId} {n : Schema}
    (notRef : ∀ id, n = .ref id → False) : resolveLazy B (fuel + 1) seen n = some (some n, seen) := by
  cases n <;> first | exact absurd rfl (notRef _) | (rw [resolveLazy]; exact notRef)

theorem resolveLazy_eq_of_unresolved :
    ∀ o root (seen : List DefinitionId), Unresolved B o seen → seen.Nodup →
      (∀ i ∈ seen, i ∈ B.map Prod.fst) → ∀ fuel, o.length < fuel →
      ∃ seen', resolveLazy B fuel seen root = some (resolveRoot o root, seen') ∧ seen'.Nodup ∧
        ∀ i ∈ seen', i ∈ B.map Prod.fst := by
  intro o root
  induction o, root using resolveRoot.induct with
  | case1 o id b rest taken ih =>
    intro seen unresolved distinct defined fuel enough
    obtain ⟨f, rfl⟩ : ∃ f, fuel = f + 1 := ⟨fuel - 1, by omega⟩
    have looked := (Bodies.take?_eq_some taken).1
    rw [unresolved.lookup id] at looked
    have fresh : id ∉ seen := fun seenBefore => by simp [seenBefore] at looked
    rw [if_neg fresh] at looked
    have definedAll : ∀ i ∈ id :: seen, i ∈ B.map Prod.fst := by
      intro i member
      rcases List.mem_cons.1 member with rfl | earlier
      · exact List.mem_map_of_mem (List.mem_of_lookup_eq_some looked)
      · exact defined i earlier
    have shorter := Bodies.take?_length taken
    obtain ⟨seen', resolved, distinct', defined'⟩ :=
      ih (id :: seen) (unresolved.take taken) (List.nodup_cons.2 ⟨fresh, distinct⟩) definedAll f
        (by omega)
    refine ⟨seen', ?_, distinct', defined'⟩
    rw [resolveLazy, if_neg fresh, resolveRoot_ref_taken taken]
    simpa [looked] using resolved
  | case2 o id absent =>
    intro seen unresolved distinct defined fuel enough
    obtain ⟨f, rfl⟩ : ∃ f, fuel = f + 1 := ⟨fuel - 1, by omega⟩
    refine ⟨seen, ?_, distinct, defined⟩
    -- nothing left to take: the definition was resolved already, or is not in the table
    have missing : o.lookup id = none := by
      cases found : o.lookup id with
      | none => rfl
      | some b =>
        obtain ⟨rest, taken⟩ := Bodies.take?_of_lookup found
        rw [taken] at absent
        cases absent
    rw [unresolved.lookup id] at missing
    rw [resolveLazy, resolveRoot_ref_absent absent]
    by_cases seenBefore : id ∈ seen
    · rw [if_pos seenBefore]
    · rw [if_neg seenBefore] at missing ⊢
      simp [missing]
  | case3 o n notRef =>
    intro seen unresolved distinct defined fuel enough
    obtain ⟨f, rfl⟩ : ∃ f, fuel = f + 1 := ⟨fuel - 1, by omega⟩
    exact ⟨seen, by rw [resolveLazy_of_not_ref notRef, resolveRoot_of_not_ref notRef], distinct, defined⟩

/-- The two recursions of the source that are not structural terminate on every input. Converting
a node from a valid registry, with bodies read from the full table and guarded only by the memo,
never needs calls nested deeper than the sizes of the node and of the table together, and gives
the conversion's answer; the definitions it expands are never repeated and were not known to the
memo. Following a root through references ends within one round per definition and a last one,
reaches the node the parameters are read from, and resolves only definitions of the table, each at
most once. -/
theorem lazy_recursions_terminate (c : Category) (B : Bodies) (n : Schema) (r : Registry)
    (valid : r.Valid) (distinct : (B.map Prod.fst).Nodup) :
    (∀ fuel, sizeOf n + sizeOf B < fuel →
      (convertLazy c B fuel n r).run =
        some ((convert c B n r).map fun p => (p.1, p.2, expanded (slots B r.known n)))) ∧
    (∀ fuel v r' log, sizeOf n + sizeOf B < fuel →
      (convertLazy c B fuel n r).run = some (.ok (v, r', log)) →
      log.Nodup ∧ ∀ i ∈ log, r.lookup (.definition i) = none) ∧
    (∀ fuel, B.length < fuel → ∃ seen, resolveLazy B fuel [] n = some (resolveRoot B n, seen) ∧
      seen.Nodup ∧ ∀ i ∈ seen, i ∈ B.map Prod.fst) := by
  have agrees : ∀ fuel, sizeOf n + sizeOf B < fuel → (convertLazy c B fuel n r).run =
      some ((convert c B n r).map fun p => (p.1, p.2, expanded (slots B r.known n))) :=
    fun fuel enough => convertLazy_eq valid (opensAll_self B r) n enough
  refine ⟨agrees, ?expansions, ?root⟩
  case expansions =>
    intro fuel v r' log enough converted
    rw [agrees fuel enough] at converted
    -- the log is the walk's expanded definitions
    obtain ⟨p, -, logged⟩ : ∃ p, convert c B n r = .ok p ∧ expanded (slots B r.known n) = log := by
      cases h : convert c B n r with
      | error e => simp [h, Except.map] at converted
      | ok p =>
        simp only [h, Except.map, Option.some.injEq, Except.ok.injEq, Prod.mk.injEq] at converted
        exact ⟨p, rfl, converted.2.2⟩
    subst logged
    refine ⟨nodup_expanded_all.1 r.known n, fun i member => ?_⟩
    simpa [Registry.known] using expanded_slots_unknown member
  case root =>
    have start : Unresolved B B [] := ⟨fun j => by simp, distinct⟩
    exact resolveLazy_eq_of_unresolved B n [] start List.nodup_nil (by simp)

/-- The alias cycles `A = ref B`, `B = ref A` and `Me = ref Me`, converted and followed from `A`. -/
theorem alias_cycles_terminate :
    let B : Bodies := [(0, .ref 1), (1, .ref 0), (2, .ref 2)]
    let n : Schema := .ref 0
    let r := Registry.new 1
    r.Valid ∧ (B.map Prod.fst).Nodup ∧
      ((∀ fuel, sizeOf n + sizeOf B < fuel →
          (convertLazy .query B fuel n r).run =
            some ((convert .query B n r).map fun p => (p.1, p.2, expanded (slots B r.known n)))) ∧
        (∀ fuel v r' log, sizeOf n + sizeOf B < fuel →
          (convertLazy .query B fuel n r).run = some (.ok (v, r', log)) →
          log.Nodup ∧ ∀ i ∈ log, r.lookup (.definition i) = none) ∧
        (∀ fuel, B.length < fuel → ∃ seen, resolveLazy B fuel [] n = some (resolveRoot B n, seen) ∧
          seen.Nodup ∧ ∀ i ∈ seen, i ∈ B.map Prod.fst)) := by
  intro B n r
  have distinct : (B.map Prod.fst).Nodup := by decide
  exact ⟨Registry.valid_new 1, distinct,
    lazy_recursions_terminate .query B n r (Registry.valid_new 1) distinct⟩

end OpenApiGen
