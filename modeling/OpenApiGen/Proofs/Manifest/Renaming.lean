import OpenApiGen.Proofs.Schema.Rename
import OpenApiGen.Proofs.Manifest.Lowering

/-!
# Lowering up to a renaming of identities

Lowering looks identities up by name and never inspects them, so a renamed table lowers to the
renamed tree; a manifest lowered from two first identities, or with its definitions reordered,
differs by a renaming.
-/

namespace OpenApiGen

theorem find?_map_snd (ids : DefinitionIds) (n : String) :
    (ids.find? (fun p => p.1 == n)).map Prod.snd = ids.lookup n := by
  induction ids with
  | nil => rfl
  | cons p rest ih =>
    obtain ⟨k, i⟩ := p
    by_cases same : k = n
    · subst same
      simp
    · have differ : (n == k) = false := beq_eq_false_iff_ne.2 (Ne.symm same)
      simp [same, List.lookup_cons, differ, ih]

theorem lowering_renames (σ : DefinitionId → DefinitionId) {idsA idsB : DefinitionIds}
    (same : ∀ n, idsB.lookup n = (idsA.lookup n).map σ) :
    (∀ d, lowerNode idsB d = Schema.rename σ <$> lowerNode idsA d) ∧
    (∀ ds, lowerList idsB ds = Schema.renameAll σ <$> lowerList idsA ds) ∧
    (∀ fs, lowerFields idsB fs = Schema.renameFields σ <$> lowerFields idsA fs) := by
  refine lowerNode.mutual_induct idsA
    (fun d => lowerNode idsB d = Schema.rename σ <$> lowerNode idsA d)
    (fun ds => lowerList idsB ds = Schema.renameAll σ <$> lowerList idsA ds)
    (fun fs => lowerFields idsB fs = Schema.renameFields σ <$> lowerFields idsA fs)
    ?primitive ?object ?objectMissing ?array ?arrayMissing ?tuple ?tupleMissing ?union ?unionMissing
    ?enum ?enumMissing ?record ?recordMissing ?optional ?optionalMissing ?nullable ?nullableMissing
    ?ref ?refUnknown ?refMissing ?other ?fieldsNil ?fieldsCons ?listNil ?listCons
  case fieldsNil => rfl
  case listNil => rfl
  case fieldsCons =>
    intro k d rest head tail
    rw [lowerFields, lowerFields, head, tail]
    cases lowerNode idsA d <;> cases lowerFields idsA rest <;> rfl
  case listCons =>
    intro d rest head tail
    rw [lowerList, lowerList, head, tail]
    cases lowerNode idsA d <;> cases lowerList idsA rest <;> rfl
  case ref =>
    intro kind fields element elements options values value inner notPrimitive _ _ _ _ _ _ _ _ isRef n
      found i looked
    have renamed : (idsB.find? (fun p => p.1 == n)).map Prod.snd = some (σ i) := by
      rw [find?_map_snd, same, ← find?_map_snd, looked]
      rfl
    obtain ⟨⟨k, j⟩, lookedB, rfl⟩ := Option.map_eq_some_iff.1 renamed
    rw [lowerNode.eq_def, lowerNode.eq_def]
    simp_all [Schema.rename]
  case refUnknown =>
    intro kind fields element elements options values value inner notPrimitive _ _ _ _ _ _ _ _ isRef n
      looked
    have renamed : (idsB.find? (fun p => p.1 == n)).map Prod.snd = none := by
      rw [find?_map_snd, same, ← find?_map_snd, looked]
      rfl
    rw [Option.map_eq_none_iff] at renamed
    rw [lowerNode.eq_def, lowerNode.eq_def]
    simp only [looked, renamed]
    simp_all
  all_goals
    intros
    rw [lowerNode.eq_def, lowerNode.eq_def]
    simp_all [missing, Schema.rename, Schema.optional, Schema.nullable, Schema.renameAll]

theorem lowering_within (ids : DefinitionIds) :
    (∀ d s, lowerNode ids d = .ok s → s.refIds ⊆ ids.map Prod.snd) ∧
    (∀ ds ss, lowerList ids ds = .ok ss → Schema.refIdsAll ss ⊆ ids.map Prod.snd) ∧
    (∀ fs ss, lowerFields ids fs = .ok ss → Schema.refIdsFields ss ⊆ ids.map Prod.snd) := by
  refine lowerNode.mutual_induct ids
    (fun d => ∀ s, lowerNode ids d = .ok s → s.refIds ⊆ ids.map Prod.snd)
    (fun ds => ∀ ss, lowerList ids ds = .ok ss → Schema.refIdsAll ss ⊆ ids.map Prod.snd)
    (fun fs => ∀ ss, lowerFields ids fs = .ok ss → Schema.refIdsFields ss ⊆ ids.map Prod.snd)
    ?primitive ?object ?objectMissing ?array ?arrayMissing ?tuple ?tupleMissing ?union ?unionMissing
    ?enum ?enumMissing ?record ?recordMissing ?optional ?optionalMissing ?nullable ?nullableMissing
    ?ref ?refUnknown ?refMissing ?other ?fieldsNil ?fieldsCons ?listNil ?listCons
  case fieldsNil =>
    intro ss lowered
    cases lowered
    simp [Schema.refIdsFields]
  case listNil =>
    intro ss lowered
    cases lowered
    simp [Schema.refIdsAll]
  case fieldsCons =>
    intro k d rest head tail ss lowered
    rw [lowerFields, Except.bind_eq_ok] at lowered
    obtain ⟨s, loweredHead, loweredTail⟩ := lowered
    rw [bind_pure_comp, Except.map_eq_ok] at loweredTail
    obtain ⟨ss', loweredRest, rfl⟩ := loweredTail
    exact List.append_subset.2 ⟨head s loweredHead, tail ss' loweredRest⟩
  case listCons =>
    intro d rest head tail ss lowered
    rw [lowerList, Except.bind_eq_ok] at lowered
    obtain ⟨s, loweredHead, loweredTail⟩ := lowered
    rw [bind_pure_comp, Except.map_eq_ok] at loweredTail
    obtain ⟨ss', loweredRest, rfl⟩ := loweredTail
    exact List.append_subset.2 ⟨head s loweredHead, tail ss' loweredRest⟩
  case ref =>
    intro kind fields element elements options values value inner notPrimitive _ _ _ _ _ _ _ _ isRef n
      found i looked s lowered
    have known : i ∈ ids.map Prod.snd := List.mem_map_of_mem (List.mem_of_find?_eq_some looked)
    have isRefTo : s = .ref i := by
      rw [lowerNode.eq_def] at lowered
      simp_all
    subst isRefTo
    simpa [Schema.refIds] using known
  case refUnknown =>
    intro kind fields element elements options values value inner notPrimitive _ _ _ _ _ _ _ _ isRef n
      looked s lowered
    rw [lowerNode.eq_def] at lowered
    simp only [looked] at lowered
    simp_all
  all_goals
    intros
    rename_i s lowered
    -- put the lowering back in the goal, where `simp` turns its result into a bound variable
    revert s
    rw [lowerNode.eq_def]
    simp_all [missing, Except.map_eq_ok, Schema.refIds, Schema.optional, Schema.nullable,
      Schema.refIdsAll]

/-! ## Lists of keys and traversals -/

section Traverse

variable {ε α β γ : Type} {f : α → Except ε β}

theorem mapM_eq_ok_cons {x : α} {rest : List α} {ys : List β} :
    (x :: rest).mapM f = .ok ys ↔ ∃ y ys', f x = .ok y ∧ rest.mapM f = .ok ys' ∧ ys = y :: ys' := by
  rw [List.mapM_cons]
  cases f x with
  | error e => simp [bind, Except.bind]
  | ok y =>
    cases rest.mapM f with
    | error e => simp [bind, Except.bind]
    | ok ys' => simp [bind, Except.bind, pure, Except.pure, eq_comm]

theorem mapM_eq_ok_members : ∀ {xs : List α} {ys : List β}, xs.mapM f = .ok ys →
    (∀ y ∈ ys, ∃ x ∈ xs, f x = .ok y) ∧ (∀ x ∈ xs, ∃ y ∈ ys, f x = .ok y)
  | [], ys, done => by
    cases done
    simp
  | x :: rest, ys, done => by
    obtain ⟨y, ys', first, others, rfl⟩ := mapM_eq_ok_cons.1 done
    obtain ⟨fromItems, toResults⟩ := mapM_eq_ok_members others
    constructor
    · rintro z (_ | ⟨_, member⟩)
      · exact ⟨x, List.mem_cons_self, first⟩
      · obtain ⟨w, inRest, gives⟩ := fromItems z member
        exact ⟨w, List.mem_cons_of_mem _ inRest, gives⟩
    · rintro w (_ | ⟨_, member⟩)
      · exact ⟨y, List.mem_cons_self, first⟩
      · obtain ⟨z, inResults, gives⟩ := toResults w member
        exact ⟨z, List.mem_cons_of_mem _ inResults, gives⟩

theorem mapM_eq_ok_map {h : β → γ} {g : α → γ} (each : ∀ x y, f x = .ok y → h y = g x) :
    ∀ {xs : List α} {ys : List β}, xs.mapM f = .ok ys → ys.map h = xs.map g
  | [], ys, done => by
    cases done
    rfl
  | x :: rest, ys, done => by
    obtain ⟨y, ys', first, others, rfl⟩ := mapM_eq_ok_cons.1 done
    rw [List.map_cons, List.map_cons, each x y first, mapM_eq_ok_map each others]

theorem mapM_ok_of_forall :
    ∀ {xs : List α}, (∀ x ∈ xs, ∃ y, f x = .ok y) → ∃ ys, xs.mapM f = .ok ys
  | [], _ => ⟨[], rfl⟩
  | x :: rest, each => by
    obtain ⟨y, first⟩ := each x List.mem_cons_self
    obtain ⟨ys, others⟩ := mapM_ok_of_forall fun x' member => each x' (List.mem_cons_of_mem _ member)
    exact ⟨y :: ys, mapM_eq_ok_cons.2 ⟨y, ys, first, others, rfl⟩⟩

theorem mapM_map_eq (f : α → Except ε β) (g : β → γ) (xs : List α) :
    xs.mapM (fun x => g <$> f x) = List.map g <$> xs.mapM f := by
  induction xs with
  | nil => rfl
  | cons x rest ih =>
    rw [List.mapM_cons, List.mapM_cons, ih]
    cases f x <;> cases rest.mapM f <;> rfl

end Traverse

section Keys

variable {α β γ : Type} [BEq α] [LawfulBEq α]

theorem lookup_eq_some_iff_mem {l : List (α × β)} (nodup : (l.map Prod.fst).Nodup) {a : α} {b : β} :
    l.lookup a = some b ↔ (a, b) ∈ l := by
  induction l with
  | nil => simp
  | cons p rest ih =>
    obtain ⟨k, v⟩ := p
    simp only [List.map_cons, List.nodup_cons, List.mem_map, not_exists, not_and] at nodup
    by_cases same : a = k
    · subst same
      simp only [List.lookup_cons_self, Option.some.injEq, List.mem_cons, Prod.mk.injEq, true_and]
      constructor
      · exact fun e => .inl e.symm
      · rintro (e | other)
        · exact e.symm
        · exact absurd rfl (nodup.1 _ other)
    · have differ : (a == k) = false := beq_eq_false_iff_ne.2 same
      simp only [List.lookup_cons, differ, List.mem_cons, Prod.mk.injEq, same, false_and, false_or]
      exact ih nodup.2

theorem lookup_map_of_injOn {l : List (α × β)} {f : α → α} {g : β → γ} {a : α}
    (injective : ∀ k ∈ l.map Prod.fst, f k = f a → k = a) :
    (l.map (fun p => (f p.1, g p.2))).lookup (f a) = (l.lookup a).map g := by
  induction l with
  | nil => rfl
  | cons p rest ih =>
    obtain ⟨k, v⟩ := p
    have restInjective : ∀ k ∈ rest.map Prod.fst, f k = f a → k = a :=
      fun k member => injective k (List.mem_cons_of_mem _ member)
    by_cases same : k = a
    · subst same
      simp
    · have differ : (f a == f k) = false :=
        beq_eq_false_iff_ne.2 fun e => same (injective k List.mem_cons_self e.symm)
      have differ' : (a == k) = false := beq_eq_false_iff_ne.2 (Ne.symm same)
      simp only [List.map_cons, List.lookup_cons, differ, differ']
      exact ih restInjective

theorem lookup_unique {l : List (α × β)}
    (nodup : (l.map Prod.fst).Nodup) {a : α} {b b' : β} (first : (a, b) ∈ l) (second : (a, b') ∈ l) :
    b = b' := by
  have found := (lookup_eq_some_iff_mem nodup).2 first
  rw [(lookup_eq_some_iff_mem nodup).2 second] at found
  exact (Option.some.inj found).symm

theorem lookup_eq_none_of_not_mem {l : List (α × β)} {a : α}
    (absent : a ∉ l.map Prod.fst) : l.lookup a = none := by
  rw [List.lookup_eq_none_iff]
  intro p member
  simpa [bne_iff_ne] using fun same : a = p.1 => absent (same ▸ List.mem_map_of_mem member)

end Keys

theorem lookup_map_snd {β γ : Type} (l : List (String × β)) (f : β → γ) (n : String) :
    (l.map (fun p => (p.1, f p.2))).lookup n = (l.lookup n).map f := by
  induction l with
  | nil => rfl
  | cons p rest ih =>
    obtain ⟨k, v⟩ := p
    by_cases same : n = k
    · subst same
      simp
    · have differ : (n == k) = false := beq_eq_false_iff_ne.2 same
      simp [List.lookup_cons, differ, ih]

theorem mem_zipIdx_of_mem {α : Type} {l : List α} {a : α} (member : a ∈ l) : ∃ k, (a, k) ∈ l.zipIdx := by
  obtain ⟨k, found⟩ := List.mem_iff_getElem?.1 member
  exact ⟨k, List.mem_zipIdx_iff_getElem?.2 found⟩

/-! ## Lowered manifests -/

/-- The identities a manifest's definitions get from `first` on, in order. -/
def Manifest.numbering (m : Manifest) (first : DefinitionId) : DefinitionIds :=
  m.definitions.zipIdx.map (fun x => (x.1.1, first + x.2))

theorem numbering_fst (m : Manifest) (first : DefinitionId) :
    (m.numbering first).map Prod.fst = m.definitions.map Prod.fst :=
  numbered_names m first

theorem numbering_snd (m : Manifest) (first : DefinitionId) :
    (m.numbering first).map Prod.snd = List.range' first m.definitions.length := by
  simp only [Manifest.numbering, List.map_map]
  have shifted := List.map_add_range' (a := first) 0 m.definitions.length 1
  rw [← List.zipIdx_map_snd, List.map_map] at shifted
  simpa [Function.comp_def] using shifted

theorem numbering_swap_fst (m : Manifest) (first : DefinitionId) :
    ((m.numbering first).map Prod.swap).map Prod.fst = List.range' first m.definitions.length := by
  rw [← numbering_snd]
  simp [List.map_map, Function.comp_def]

theorem numbering_bounded {m : Manifest} {first : DefinitionId} {p : String × DefinitionId}
    (member : p ∈ m.numbering first) : first ≤ p.2 ∧ p.2 < first + m.definitions.length := by
  have listed : p.2 ∈ (m.numbering first).map Prod.snd := List.mem_map_of_mem member
  rwa [numbering_snd, List.mem_range'_1] at listed

theorem lower_eq (m : Manifest) (first : DefinitionId) :
    m.lower first = (fun bodies => (⟨m, m.numbering first, bodies⟩ : Lowered)) <$>
      m.definitions.zipIdx.mapM
        (fun x => (fun s => (first + x.2, s)) <$> lowerNode (m.numbering first) x.1.2) := by
  unfold Manifest.lower
  simp only [bind_pure_comp]
  rfl

/-- What a lowered manifest holds: its definitions numbered from `first` on, a body under each of
those identities, and every body a lowering of the definition of that number. -/
structure Lowered.Numbered (l : Lowered) (m : Manifest) (first : DefinitionId) : Prop where
  ids : l.ids = m.numbering first
  keys : l.bodies.map Prod.fst = (m.numbering first).map Prod.snd
  lowered : ∀ p ∈ l.bodies, ∃ d, lowerNode l.ids d = .ok p.2
  body : ∀ x ∈ m.definitions.zipIdx, ∃ b, (first + x.2, b) ∈ l.bodies ∧ lowerNode l.ids x.1.2 = .ok b

theorem lower_numbered {m : Manifest} {first : DefinitionId} {l : Lowered}
    (lowered : m.lower first = .ok l) : l.Numbered m first := by
  rw [lower_eq] at lowered
  obtain ⟨bodies, done, rfl⟩ := Except.map_eq_ok.1 lowered
  have each : ∀ (x : (String × NodeDoc) × Nat) y,
      (fun s => (first + x.2, s)) <$> lowerNode (m.numbering first) x.1.2 = .ok y →
        lowerNode (m.numbering first) x.1.2 = .ok y.2 ∧ y.1 = first + x.2 := by
    intro x y gives
    obtain ⟨s, lowered, rfl⟩ := Except.map_eq_ok.1 gives
    exact ⟨lowered, rfl⟩
  obtain ⟨fromItems, toResults⟩ := mapM_eq_ok_members done
  refine ⟨rfl, ?_, ?_, ?_⟩
  · rw [mapM_eq_ok_map (fun x y gives => (each x y gives).2) done]
    simp [Manifest.numbering]
  · intro p member
    obtain ⟨x, -, gives⟩ := fromItems p member
    exact ⟨x.1.2, (each x p gives).1⟩
  · intro x member
    obtain ⟨y, inBodies, gives⟩ := toResults x member
    obtain ⟨lowered, key⟩ := each x y gives
    refine ⟨y.2, ?_, lowered⟩
    rw [← key]
    exact inBodies

theorem Lowered.Numbered.nodup_keys {l : Lowered} {m : Manifest} {first : DefinitionId}
    (numbered : l.Numbered m first) : (l.bodies.map Prod.fst).Nodup := by
  rw [numbered.keys, numbering_snd]
  exact List.nodup_range'

theorem Lowered.Numbered.key_bounded {l : Lowered} {m : Manifest} {first : DefinitionId}
    (numbered : l.Numbered m first) {i : DefinitionId} (key : i ∈ l.bodies.map Prod.fst) :
    first ≤ i ∧ i < first + m.definitions.length := by
  rwa [numbered.keys, numbering_snd, List.mem_range'_1] at key

theorem Lowered.Numbered.within {l : Lowered} {m : Manifest} {first : DefinitionId}
    (numbered : l.Numbered m first) {i : DefinitionId} {b : Schema} (found : l.bodies.lookup i = some b) :
    ∀ j ∈ b.refIds, ∃ p ∈ l.ids, p.2 = j := by
  obtain ⟨d, lowered⟩ := numbered.lowered (i, b) (List.mem_of_lookup_eq_some found)
  intro j member
  exact List.mem_map.1 ((lowering_within l.ids).1 d b lowered member)

theorem Lowered.Numbered.lowers {l : Lowered} {m : Manifest} {first : DefinitionId}
    (numbered : l.Numbered m first) : ∀ p ∈ m.definitions, ∃ s, lowerNode l.ids p.2 = .ok s := by
  intro p member
  obtain ⟨k, listed⟩ := mem_zipIdx_of_mem member
  obtain ⟨b, -, lowered⟩ := numbered.body (p, k) listed
  exact ⟨b, lowered⟩

theorem Lowered.Numbered.lookup_body {l : Lowered} {m : Manifest} {first : DefinitionId}
    (numbered : l.Numbered m first) {x : (String × NodeDoc) × Nat} (listed : x ∈ m.definitions.zipIdx) :
    ∃ b, l.bodies.lookup (first + x.2) = some b ∧ lowerNode l.ids x.1.2 = .ok b := by
  obtain ⟨b, stored, lowered⟩ := numbered.body x listed
  exact ⟨b, (lookup_eq_some_iff_mem numbered.nodup_keys).2 stored, lowered⟩

theorem lower_ok_of_lowers {m : Manifest} {first : DefinitionId}
    (each : ∀ p ∈ m.definitions, ∃ s, lowerNode (m.numbering first) p.2 = .ok s) :
    ∃ l, m.lower first = .ok l := by
  obtain ⟨bodies, done⟩ := @mapM_ok_of_forall _ _ _
    (fun x => (fun s => (first + x.2, s)) <$> lowerNode (m.numbering first) x.1.2)
    m.definitions.zipIdx fun x member => by
      obtain ⟨s, lowered⟩ := each x.1 (List.fst_mem_of_mem_zipIdx member)
      exact ⟨(first + x.2, s), by rw [lowered]; rfl⟩
  exact ⟨_, by rw [lower_eq, done]; rfl⟩

/-! ## Two lowerings that differ by a renaming -/

structure Lowered.Renames (ρ : Renaming) (a b : Lowered) : Prop where
  ids : ∀ n, b.ids.lookup n = (a.ids.lookup n).map ρ.map
  domain : ∀ p ∈ a.ids, p.2 ∈ ρ.domain
  bodies : a.bodies.Renames ρ b.bodies

theorem shift_injective {source target i j : Nat} (hi : source ≤ i) (hj : source ≤ j)
    (same : target + (i - source) = target + (j - source)) : i = j := by
  omega

/-- Moving the `count` identities from `source` on to the ones from `target` on. -/
def Renaming.shift (source target count : Nat) : Renaming where
  map i := target + (i - source)
  domain := {i | source ≤ i ∧ i < source + count}
  sourceBound := source + count
  targetBound := target + count
  injOn := by
    intro (i : Nat) (hi : source ≤ i ∧ i < source + count) (j : Nat) (hj : source ≤ j ∧ j < source + count)
      (same : target + (i - source) = target + (j - source))
    show i = j
    omega
  bounded := by
    intro (i : Nat) (hi : source ≤ i ∧ i < source + count)
    show i < source + count ∧ target + (i - source) < target + count
    omega

theorem lower_shift (m : Manifest) (nA nB : DefinitionId) :
    m.lower nB = (fun l => (⟨m, l.ids.map (fun p => (p.1, nB + (p.2 - nA))),
      l.bodies.map (fun p => (nB + (p.1 - nA), p.2.rename (fun i => nB + (i - nA))))⟩ : Lowered)) <$>
      m.lower nA := by
  have numbered : m.numbering nB = (m.numbering nA).map (fun p => (p.1, nB + (p.2 - nA))) := by
    simp [Manifest.numbering, Function.comp_def]
  have same : ∀ n, (m.numbering nB).lookup n = ((m.numbering nA).lookup n).map (fun i => nB + (i - nA)) := by
    intro n
    rw [numbered]
    exact lookup_map_snd _ (fun i => nB + (i - nA)) n
  have lowered := (lowering_renames (fun i => nB + (i - nA)) same).1
  have each : ∀ x : (String × NodeDoc) × Nat,
      (fun s => (nB + x.2, s)) <$> lowerNode (m.numbering nB) x.1.2 =
        (fun p => (nB + (p.1 - nA), p.2.rename (fun i => nB + (i - nA)))) <$>
          ((fun s => (nA + x.2, s)) <$> lowerNode (m.numbering nA) x.1.2) := by
    intro x
    rw [lowered, Functor.map_map, Functor.map_map]
    simp
  rw [lower_eq, lower_eq, funext each, mapM_map_eq, numbered]
  cases m.definitions.zipIdx.mapM (fun x => (fun s => (nA + x.2, s)) <$> lowerNode (m.numbering nA) x.1.2) <;> rfl

theorem lower_shift_renames {m : Manifest} {nA nB : DefinitionId} {lA : Lowered}
    (lowered : m.lower nA = .ok lA) :
    ∃ lB, m.lower nB = .ok lB ∧ lA.Renames (Renaming.shift nA nB m.definitions.length) lB := by
  have numbered := lower_numbered lowered
  have keyed : ∀ k ∈ lA.bodies.map Prod.fst, nA ≤ k := fun k key => (numbered.key_bounded key).1
  refine ⟨_, by rw [lower_shift m nA nB, lowered]; rfl, ?_, ?_, ?_⟩
  · intro n
    exact lookup_map_snd _ (fun i => nB + (i - nA)) n
  · intro p member
    rw [numbered.ids] at member
    exact numbering_bounded member
  · refine ⟨numbered.nodup_keys, ?_, ?_, ?_⟩
    · rw [List.map_map]
      have composed : Prod.fst ∘ (fun p : DefinitionId × Schema =>
          (nB + (p.1 - nA), p.2.rename (fun i => nB + (i - nA)))) =
          (fun i => nB + (i - nA)) ∘ Prod.fst := rfl
      rw [composed, ← List.map_map]
      exact numbered.nodup_keys.map_on fun i hi j hj same =>
        shift_injective (keyed i hi) (keyed j hj) same
    · intro (i : Nat) (hi : nA ≤ i ∧ i < nA + m.definitions.length)
      exact lookup_map_of_injOn fun k key same => shift_injective (keyed k key) hi.1 same
    · intro i b found j member
      obtain ⟨p, listed, rfl⟩ := numbered.within found j member
      rw [numbered.ids] at listed
      exact numbering_bounded listed

/-! ## Definitions listed in another order -/

/-- The identity a second listing's numbering gives the definition that an identity of the first
numbering belongs to; an identity of neither is kept. -/
def Manifest.renumber (mA mB : Manifest) (n i : DefinitionId) : DefinitionId :=
  ((((mA.numbering n).map Prod.swap).lookup i).bind fun name => (mB.numbering n).lookup name).getD i

theorem numbering_keys_nodup {m : Manifest} (names : (m.definitions.map Prod.fst).Nodup)
    (n : DefinitionId) : ((m.numbering n).map Prod.fst).Nodup :=
  (numbering_fst m n).symm ▸ names

theorem numbering_ids_nodup (m : Manifest) (n : DefinitionId) :
    (((m.numbering n).map Prod.swap).map Prod.fst).Nodup :=
  (numbering_swap_fst m n).symm ▸ List.nodup_range'

section Renumber

variable {mA mB : Manifest} {n : DefinitionId}

theorem mem_numbering_fst_of_perm (perm : mA.definitions.Perm mB.definitions) (x : String) :
    x ∈ (mA.numbering n).map Prod.fst ↔ x ∈ (mB.numbering n).map Prod.fst := by
  rw [numbering_fst, numbering_fst]
  exact (perm.map Prod.fst).mem_iff

theorem renumber_mem (perm : mA.definitions.Perm mB.definitions)
    (names : (mA.definitions.map Prod.fst).Nodup) {p : String × DefinitionId}
    (member : p ∈ mA.numbering n) : (p.1, mA.renumber mB n p.2) ∈ mB.numbering n := by
  have namesB := (perm.map Prod.fst).nodup_iff.1 names
  obtain ⟨⟨name, q⟩, inB, named⟩ :=
    List.mem_map.1 ((mem_numbering_fst_of_perm perm p.1).1 (List.mem_map_of_mem member))
  simp only at named
  subst named
  have back : ((mA.numbering n).map Prod.swap).lookup p.2 = some p.1 :=
    (lookup_eq_some_iff_mem (numbering_ids_nodup mA n)).2 (List.mem_map.2 ⟨p, member, rfl⟩)
  have forward : (mB.numbering n).lookup p.1 = some q :=
    (lookup_eq_some_iff_mem (numbering_keys_nodup namesB n)).2 inB
  simpa [Manifest.renumber, back, forward] using inB

theorem renumber_bounded (perm : mA.definitions.Perm mB.definitions)
    (names : (mA.definitions.map Prod.fst).Nodup) {p : String × DefinitionId}
    (member : p ∈ mA.numbering n) :
    n ≤ mA.renumber mB n p.2 ∧ mA.renumber mB n p.2 < n + mB.definitions.length :=
  numbering_bounded (renumber_mem perm names member)

theorem lookup_numbering_renumber (perm : mA.definitions.Perm mB.definitions)
    (names : (mA.definitions.map Prod.fst).Nodup) (x : String) :
    (mB.numbering n).lookup x = ((mA.numbering n).lookup x).map (mA.renumber mB n) := by
  have namesB := (perm.map Prod.fst).nodup_iff.1 names
  cases found : (mA.numbering n).lookup x with
  | none =>
    refine lookup_eq_none_of_not_mem fun inB => ?_
    obtain ⟨p, inA, rfl⟩ := List.mem_map.1 ((mem_numbering_fst_of_perm perm x).2 inB)
    rw [(lookup_eq_some_iff_mem (numbering_keys_nodup names n)).2 inA] at found
    cases found
  | some i =>
    have inA := (lookup_eq_some_iff_mem (numbering_keys_nodup names n)).1 found
    rw [Option.map_some]
    exact (lookup_eq_some_iff_mem (numbering_keys_nodup namesB n)).2 (renumber_mem perm names inA)

theorem renumber_injOn (perm : mA.definitions.Perm mB.definitions)
    (names : (mA.definitions.map Prod.fst).Nodup) :
    Set.InjOn (mA.renumber mB n) {i | ∃ p ∈ mA.numbering n, p.2 = i} := by
  rintro _ ⟨p, inA, rfl⟩ _ ⟨p', inA', rfl⟩ same
  have inB := renumber_mem perm names inA
  have inB' := renumber_mem perm names inA'
  rw [same] at inB
  -- the two definitions get one identity in the second numbering, so they have one name
  have sameName : p.1 = p'.1 :=
    lookup_unique (numbering_ids_nodup mB n) (List.mem_map.2 ⟨_, inB, rfl⟩) (List.mem_map.2 ⟨_, inB', rfl⟩)
  have inA'' : (p.1, p'.2) ∈ mA.numbering n := by
    rw [sameName]
    exact inA'
  exact lookup_unique (numbering_keys_nodup names n) inA inA''

/-- Renumbering, as a renaming of the identities of the first numbering. -/
def Renaming.renumber (mA mB : Manifest) (n : DefinitionId) (perm : mA.definitions.Perm mB.definitions)
    (names : (mA.definitions.map Prod.fst).Nodup) : Renaming where
  map := mA.renumber mB n
  domain := {i | ∃ p ∈ mA.numbering n, p.2 = i}
  sourceBound := n + mA.definitions.length
  targetBound := n + mB.definitions.length
  injOn := renumber_injOn perm names
  bounded := by
    rintro _ ⟨p, inA, rfl⟩
    exact ⟨(numbering_bounded inA).2, (renumber_bounded perm names inA).2⟩

theorem Lowered.Numbered.lookup_renumber {lA lB : Lowered} (numberedA : lA.Numbered mA n)
    (numberedB : lB.Numbered mB n) (perm : mA.definitions.Perm mB.definitions)
    (names : (mA.definitions.map Prod.fst).Nodup) {x : (String × NodeDoc) × Nat}
    (listed : x ∈ mA.definitions.zipIdx) :
    lB.bodies.lookup (mA.renumber mB n (n + x.2)) =
      (lA.bodies.lookup (n + x.2)).map (Schema.rename (mA.renumber mB n)) := by
  have namesB := (perm.map Prod.fst).nodup_iff.1 names
  obtain ⟨bA, storedA, loweredA⟩ := numberedA.lookup_body listed
  have inA : (x.1.1, n + x.2) ∈ mA.numbering n := List.mem_map_of_mem listed
  obtain ⟨y, listedB, named⟩ := List.mem_map.1 (renumber_mem perm names inA)
  simp only [Prod.mk.injEq] at named
  obtain ⟨sameName, target⟩ := named
  obtain ⟨bB, storedB, loweredB⟩ := numberedB.lookup_body listedB
  -- the definition numbered `n + y.2` in the second listing is the one numbered `n + x.2` in the
  -- first, so its body is the first body renamed
  have sameDefinition : y.1.2 = x.1.2 := by
    have inMB : (x.1.1, x.1.2) ∈ mB.definitions := perm.subset (List.fst_mem_of_mem_zipIdx listed)
    exact lookup_unique namesB (sameName ▸ List.fst_mem_of_mem_zipIdx listedB) inMB
  rw [numberedB.ids, sameDefinition, (lowering_renames _ (lookup_numbering_renumber perm names)).1,
    ← numberedA.ids, loweredA] at loweredB
  rw [← target, storedA, storedB, Option.map_some]
  exact congrArg some (Except.ok.inj loweredB).symm

end Renumber

theorem lower_reordered_renames {mA mB : Manifest} {n : DefinitionId} {lA : Lowered}
    (loweredA : mA.lower n = .ok lA) (perm : mA.definitions.Perm mB.definitions)
    (names : (mA.definitions.map Prod.fst).Nodup) :
    ∃ lB ρ, mB.lower n = .ok lB ∧ lA.Renames ρ lB ∧ (∀ i ∈ ρ.domain, n ≤ i ∧ n ≤ ρ.map i) ∧
      ρ.sourceBound = n + mA.definitions.length ∧ ρ.targetBound = n + mB.definitions.length := by
  have numberedA := lower_numbered loweredA
  have lowering := (lowering_renames (mA.renumber mB n) (lookup_numbering_renumber perm names)).1
  obtain ⟨lB, loweredB⟩ := @lower_ok_of_lowers mB n fun p member => by
    obtain ⟨s, lowered⟩ := numberedA.lowers p (perm.mem_iff.2 member)
    rw [numberedA.ids] at lowered
    exact ⟨s.rename (mA.renumber mB n), by rw [lowering, lowered]; rfl⟩
  have numberedB := lower_numbered loweredB
  refine ⟨lB, Renaming.renumber mA mB n perm names, loweredB, ⟨?ids, ?domain, ?bodies⟩, ?fresh, rfl, rfl⟩
  case ids =>
    rw [numberedA.ids, numberedB.ids]
    exact lookup_numbering_renumber perm names
  case domain =>
    intro p member
    rw [numberedA.ids] at member
    exact ⟨p, member, rfl⟩
  case bodies =>
    refine ⟨numberedA.nodup_keys, numberedB.nodup_keys, ?_, ?_⟩
    · rintro _ ⟨p, inA, rfl⟩
      obtain ⟨x, listed, rfl⟩ := List.mem_map.1 inA
      exact numberedA.lookup_renumber numberedB perm names listed
    · intro i b found j member
      obtain ⟨p, listed, rfl⟩ := numberedA.within found j member
      rw [numberedA.ids] at listed
      exact ⟨p, listed, rfl⟩
  case fresh =>
    rintro _ ⟨p, inA, rfl⟩
    exact ⟨(numbering_bounded inA).1, (renumber_bounded perm names inA).1⟩

end OpenApiGen
