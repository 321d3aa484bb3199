import OpenApiGen.Proofs.Manifest.Renaming
import OpenApiGen.Proofs.Docs.Reachable

/-!
# Lazy identities are never observed

Registering through states that differ by a renaming of identities answers alike and leaves states
that again differ by one. Hence counters, the order of definitions and identities forgotten by a
reset are never seen.
-/

namespace OpenApiGen

/-! ## Registering up to a renaming -/

theorem Except.Agree.refl {ε α : Type} (x : Except ε α) : Except.Agree (· = ·) x x := by
  cases x with
  | error e => exact .error e
  | ok a => exact .ok rfl

structure Docs.Renames (ρ : Renaming) (a b : Docs) : Prop where
  template : b.template = a.template
  paths : b.paths = a.paths
  mounts : b.mounts = a.mounts
  registry : a.registry.Renames ρ b.registry

section Register

variable {ρ : Renaming} {lA lB : Lowered}

theorem Lowered.Renames.lower (rel : lA.Renames ρ lB) (d : NodeDoc) :
    Except.Agree (fun s s' => s' = s.rename ρ.map ∧ ∀ j ∈ s.refIds, j ∈ ρ.domain)
      (lA.lower d) (lB.lower d) := by
  unfold Lowered.lower
  rw [(lowering_renames ρ.map rel.ids).1 d]
  cases lowered : lowerNode lA.ids d with
  | error e => exact .error e
  | ok s =>
    refine .ok ⟨rfl, fun j member => ?_⟩
    obtain ⟨p, listed, rfl⟩ := List.mem_map.1 ((lowering_within lA.ids).1 d s lowered member)
    exact rel.domain p listed

theorem Lowered.Renames.mapM_lower (rel : lA.Renames ρ lB) (n : Option NodeDoc) :
    Except.Agree (fun o o' => o' = o.map (Schema.rename ρ.map) ∧ ∀ s ∈ o, ∀ j ∈ s.refIds, j ∈ ρ.domain)
      (n.mapM lA.lower) (n.mapM lB.lower) := by
  cases n with
  | none => exact .ok ⟨rfl, by simp⟩
  | some d =>
    refine (rel.lower d).map ?_
    rintro s _ ⟨rfl, within⟩
    exact ⟨rfl, by simpa using within⟩

theorem Entry.apply_renames (rel : lA.Renames ρ lB) (x : Entry) {dA dB : Docs}
    (docs : dA.Renames ρ dB) : Except.Agree (Docs.Renames ρ) (x.apply lA dA) (x.apply lB dB) := by
  cases x with
  | refused e => exact .error e
  | route pre r =>
    have fullPath : dB.fullPath = dA.fullPath := by
      funext path
      simp [Docs.fullPath, docs.mounts]
    unfold Entry.apply
    refine (Except.Agree.refl r.path.documented).bind ?_
    rintro path _ rfl
    refine (rel.mapM_lower r.params).bind ?_
    rintro params _ ⟨rfl, withinParams⟩
    refine (rel.mapM_lower r.body).bind ?_
    rintro body _ ⟨rfl, withinBody⟩
    refine (rel.mapM_lower r.query).bind ?_
    rintro query _ ⟨rfl, withinQuery⟩
    have within : RouteInputs.Within ρ.domain ⟨params, body, query⟩ := by
      simp only [RouteInputs.Within, List.mem_cons, List.not_mem_nil, or_false]
      rintro root (rfl | rfl | rfl)
      · exact withinParams
      · exact withinBody
      · exact withinQuery
    rw [docs.paths, fullPath]
    refine (record_renames rel.bodies dA.paths r.method (dA.fullPath (pre ++ path)) ⟨params, body, query⟩
      within r.description docs.registry).bind ?_
    rintro ⟨paths, registry⟩ ⟨_, registry'⟩ ⟨rfl, renames⟩
    exact .ok ⟨docs.template, rfl, docs.mounts, renames⟩

theorem runEntries_renames (rel : lA.Renames ρ lB) :
    ∀ (es : List Entry) {dA dB : Docs}, dA.Renames ρ dB →
      (runEntries lA es dA).2 = (runEntries lB es dB).2 ∧
        (runEntries lA es dA).1.Renames ρ (runEntries lB es dB).1
  | [], _, _, docs => ⟨rfl, docs⟩
  | x :: rest, dA, dB, docs => by
    have agree := Entry.apply_renames rel x docs
    simp only [runEntries]
    generalize x.apply lA dA = outA at agree ⊢
    generalize x.apply lB dB = outB at agree ⊢
    cases agree with
    | error e => exact ⟨rfl, docs⟩
    | ok related => exact runEntries_renames rel rest related

theorem runEntries_nextId (l : Lowered) (es : List Entry) (d : Docs) :
    (runEntries l es d).1.nextId = d.nextId :=
  runEntries_preserves (fun d' => d'.nextId = d.nextId)
    (fun _ _ _ _ same applied => by
      obtain ⟨_, _, _, _, _, _, _, _, rfl⟩ := Entry.apply_eq_ok applied
      exact same) es rfl

end Register

def Renaming.empty (sourceBound targetBound : DefinitionId) : Renaming where
  map := id
  domain := ∅
  sourceBound := sourceBound
  targetBound := targetBound
  injOn := Set.injOn_empty _
  bounded := fun i member => by simp at member

/-- Two documentation states that answer alike: the same template, paths, mount paths, names,
schemas and `anyType` entry, and neither memo remembers an identity its own counter has not
handed out yet. Which identities the memos remember below their counters does not matter. -/
def Docs.Alike (a b : Docs) : Prop := a.Renames (Renaming.empty a.nextId b.nextId) b

namespace Docs

variable {a b : Docs} {ρ : Renaming}

theorem Alike.renames (alike : a.Alike b) (ρ : Renaming)
    (fresh : ∀ i ∈ ρ.domain, a.nextId ≤ i ∧ b.nextId ≤ ρ.map i)
    (source : a.nextId ≤ ρ.sourceBound) (target : b.nextId ≤ ρ.targetBound) : a.Renames ρ b where
  template := alike.template
  paths := alike.paths
  mounts := alike.mounts
  registry :=
    { first := alike.registry.first
      next := alike.registry.next
      schemas := alike.registry.schemas
      anyType := alike.registry.anyType
      memo := fun i hi => by
        rw [alike.registry.freshTarget _ (fresh i hi).2, alike.registry.freshSource _ (fresh i hi).1]
      freshSource := fun i above => alike.registry.freshSource i (Nat.le_trans source above)
      freshTarget := fun i above => alike.registry.freshTarget i (Nat.le_trans target above) }

theorem Renames.alike (rel : a.Renames ρ b) (source : ρ.sourceBound ≤ a.nextId)
    (target : ρ.targetBound ≤ b.nextId) : a.Alike b where
  template := rel.template
  paths := rel.paths
  mounts := rel.mounts
  registry :=
    { first := rel.registry.first
      next := rel.registry.next
      schemas := rel.registry.schemas
      anyType := rel.registry.anyType
      memo := fun i hi => by simp [Renaming.empty] at hi
      freshSource := fun i above => rel.registry.freshSource i (Nat.le_trans source above)
      freshTarget := fun i above => rel.registry.freshTarget i (Nat.le_trans target above) }

theorem Renames.setNextId (rel : a.Renames ρ b) (x y : DefinitionId) :
    ({ a with nextId := x } : Docs).Renames ρ { b with nextId := y } :=
  ⟨rel.template, rel.paths, rel.mounts, rel.registry⟩

theorem Alike.advance (alike : a.Alike b) (k k' : DefinitionId) :
    ({ a with nextId := a.nextId + k } : Docs).Alike { b with nextId := b.nextId + k' } :=
  (Renames.setNextId alike _ _).alike (Nat.le_add_right _ _) (Nat.le_add_right _ _)

theorem register_renames (alike : a.Alike b) {mA mB : Manifest} {lA lB : Lowered}
    (loweredA : mA.lower a.nextId = .ok lA) (loweredB : mB.lower b.nextId = .ok lB)
    (rel : lA.Renames ρ lB) (fresh : ∀ i ∈ ρ.domain, a.nextId ≤ i ∧ b.nextId ≤ ρ.map i)
    (source : ρ.sourceBound = a.nextId + mA.definitions.length)
    (target : ρ.targetBound = b.nextId + mB.definitions.length) (flat : mA.flatten = mB.flatten) :
    (a.register mA).2 = (b.register mB).2 ∧ (a.register mA).1.Alike (b.register mB).1 := by
  rw [register_eq, register_eq, loweredA, loweredB, ← flat]
  -- the renaming only touches the identities the two counters hand out now, which neither memo
  -- has seen yet
  have start := (alike.renames ρ fresh (source ▸ Nat.le_add_right _ _)
    (target ▸ Nat.le_add_right _ _)).setNextId (a.nextId + mA.definitions.length)
      (b.nextId + mB.definitions.length)
  obtain ⟨same, related⟩ := runEntries_renames rel mA.flatten start
  refine ⟨same, related.alike ?_ ?_⟩
  · rw [runEntries_nextId, source]
  · rw [runEntries_nextId, target]

theorem Alike.register (alike : a.Alike b) (m : Manifest) :
    (a.register m).2 = (b.register m).2 ∧ (a.register m).1.Alike (b.register m).1 := by
  cases loweredA : m.lower a.nextId with
  | error e =>
    have loweredB : m.lower b.nextId = .error e := by
      rw [lower_eq_error_iff] at loweredA ⊢
      exact loweredA
    rw [register_eq, register_eq, loweredA, loweredB]
    exact ⟨rfl, alike.advance _ _⟩
  | ok lA =>
    obtain ⟨lB, loweredB, rel⟩ := @lower_shift_renames m a.nextId b.nextId lA loweredA
    refine register_renames alike loweredA loweredB rel ?_ rfl rfl rfl
    intro i hi
    exact ⟨hi.1, Nat.le_add_right _ _⟩

theorem alike_of_new {first : UInt32} (template : b.template = a.template) (paths : b.paths = a.paths)
    (mounts : b.mounts = a.mounts) (registryA : a.registry = Registry.new first)
    (registryB : b.registry = Registry.new first) : a.Alike b where
  template := template
  paths := paths
  mounts := mounts
  registry :=
    { first := by rw [registryA, registryB]
      next := by rw [registryA, registryB]
      schemas := by rw [registryA, registryB]
      anyType := by rw [registryA, registryB]
      memo := fun i hi => by simp [Renaming.empty] at hi
      freshSource := fun _ _ => by rw [registryA]; rfl
      freshTarget := fun _ _ => by rw [registryB]; rfl }

theorem Alike.reset (alike : a.Alike b) : a.reset.Alike b.reset :=
  alike_of_new alike.template rfl rfl rfl (by simp [Docs.reset, alike.registry.first])

theorem Alike.document (alike : a.Alike b) : a.document = b.document := by
  unfold Docs.document
  rw [alike.paths, alike.template, alike.registry.schemas]

/-- A step of a documentation run. -/
inductive Step where
  | register (m : Manifest)
  | reset
  | document

def Step.run : Step → Docs → Docs × Option Error
  | .register m, d => d.register m
  | .reset, d => (d.reset, none)
  | .document, d => (d, none)

/-- What a run of steps answers: after each step, the document as it stands and the failure the
step met. -/
def answers (d : Docs) : List Step → List (Json × Option Error)
  | [] => []
  | s :: rest => ((s.run d).1.document, (s.run d).2) :: (s.run d).1.answers rest

theorem Alike.step (alike : a.Alike b) (s : Step) :
    (s.run a).2 = (s.run b).2 ∧ (s.run a).1.Alike (s.run b).1 := by
  cases s with
  | register m => exact alike.register m
  | reset => exact ⟨rfl, alike.reset⟩
  | document => exact ⟨rfl, alike⟩

theorem Alike.answers (alike : a.Alike b) (steps : List Step) : a.answers steps = b.answers steps := by
  -- each step keeps the states alike, and alike states answer alike
  induction steps generalizing a b with
  | nil => rfl
  | cons s rest ih =>
    obtain ⟨failure, next⟩ := alike.step s
    rw [Docs.answers, Docs.answers, next.document, failure, ih next]

theorem reset_alike_new (d : Docs) : d.reset.Alike (Docs.new d.registry.first d.template) :=
  alike_of_new rfl rfl rfl rfl rfl

theorem Reachable.alike {first : UInt32} {d : Docs} (reachable : d.Reachable first) : d.Alike d := by
  induction reachable with
  | new template => exact alike_of_new rfl rfl rfl rfl rfl
  | register m _ ih => exact (ih.register m).2
  | reset _ ih => exact ih.reset

theorem Alike.register_reordered {d : Docs} (fresh : d.Alike d) {mA mB : Manifest}
    (perm : mA.definitions.Perm mB.definitions) (names : (mA.definitions.map Prod.fst).Nodup)
    (routes : mA.routes = mB.routes) (mounts : mA.mounts = mB.mounts)
    (lowers : ∃ l, mA.lower d.nextId = .ok l) :
    (d.register mA).2 = (d.register mB).2 ∧ (d.register mA).1.Alike (d.register mB).1 := by
  obtain ⟨lA, loweredA⟩ := lowers
  obtain ⟨lB, ρ, loweredB, rel, bounds, source, target⟩ := lower_reordered_renames loweredA perm names
  have flat : mA.flatten = mB.flatten := by
    unfold Manifest.flatten
    rw [routes, mounts]
  exact register_renames fresh loweredA loweredB rel bounds source target flat

theorem Alike.unknown_identities {d : Docs} (fresh : d.Alike d) {m : Manifest} {l : Lowered}
    (lowered : m.lower d.nextId = .ok l) : ∀ p ∈ l.ids, d.registry.lookup (.definition p.2) = none := by
  intro p member
  rw [(lower_numbered lowered).ids] at member
  exact fresh.registry.freshSource p.2 (numbering_bounded member).1

theorem new_alike (first : UInt32) (template : Json) (k k' : DefinitionId) :
    ({ Docs.new first template with nextId := k } : Docs).Alike { Docs.new first template with nextId := k' } :=
  alike_of_new rfl rfl rfl rfl rfl

end Docs

/-- Lazy identities are compared, never shown. Runs that take the same steps from alike states
answer alike at every step, however their counters differ (a new run from any counter is alike
to a new run from any other); registering a manifest whose definitions are listed in another
order gives the same failure and document, and leaves a state that answers every later step
alike, whenever the first order lowers; after a reset every step answers as on a new run with the
same first index and template, whatever was registered before; and in every reachable state the
memo remembers none of the identities the next manifest's definitions are lowered with, so no
component of an earlier registration answers for them. -/
theorem lazy_identities_compared_only :
    (∀ a b : Docs, a.Alike b → ∀ steps, a.answers steps = b.answers steps) ∧
    (∀ (d : Docs) steps, d.reset.answers steps = (Docs.new d.registry.first d.template).answers steps) ∧
    (∀ (first : UInt32) (d : Docs) (mA mB : Manifest), d.Reachable first →
      mA.definitions.Perm mB.definitions → (mA.definitions.map Prod.fst).Nodup →
      mA.routes = mB.routes → mA.mounts = mB.mounts → (∃ l, mA.lower d.nextId = .ok l) →
      (d.register mA).2 = (d.register mB).2 ∧
        (d.register mA).1.document = (d.register mB).1.document ∧
        ∀ steps, (d.register mA).1.answers steps = (d.register mB).1.answers steps) ∧
    (∀ (first : UInt32) (d : Docs) (m : Manifest) (l : Lowered), d.Reachable first →
      m.lower d.nextId = .ok l → ∀ p ∈ l.ids, d.registry.lookup (.definition p.2) = none) := by
  refine ⟨fun a b alike => alike.answers, fun d => (Docs.reset_alike_new d).answers, ?_, ?_⟩
  · intro first d mA mB reachable perm names routes mounts lowers
    obtain ⟨failure, alike⟩ := reachable.alike.register_reordered perm names routes mounts lowers
    exact ⟨failure, alike.document, alike.answers⟩
  · intro first d m l reachable lowered
    exact reachable.alike.unknown_identities lowered

theorem reordered_manifest_from_other_counter :
    let ref (n : String) : NodeDoc := { kind := "ref", name := some n }
    let tree : NodeDoc := { kind := "object", fields := some [("next", ref "Tree"), ("leaf", ref "Leaf")] }
    let leaf : NodeDoc := { kind := "union", options := some [{ kind := "string" }, { kind := "date" }] }
    let routes : List RouteDoc :=
      [{ method := .post, path := .literal "/trees", body := some (ref "Tree"), query := some tree }]
    let mA : Manifest := { definitions := [("Tree", tree), ("Leaf", leaf)], routes }
    let mB : Manifest := { definitions := [("Leaf", leaf), ("Tree", tree)], routes }
    let steps : List Docs.Step := [.register mA, .reset, .register mB, .document]
    let d := ((Docs.new 1).register mA).1
    (Docs.new 1).answers steps = ({ Docs.new 1 with nextId := 40 } : Docs).answers steps ∧
    ((Docs.new 1).register mA).2 = ((Docs.new 1).register mB).2 ∧
    ((Docs.new 1).register mA).1.document = ((Docs.new 1).register mB).1.document ∧
    ∃ l, mB.lower d.nextId = .ok l ∧ ∀ p ∈ l.ids, d.registry.lookup (.definition p.2) = none := by
  intro ref tree leaf routes mA mB steps d
  have lowersA : ∃ l, mA.lower (Docs.new 1).nextId = .ok l := ⟨_, rfl⟩
  have lowersB : ∃ l, mB.lower d.nextId = .ok l := ⟨_, rfl⟩
  obtain ⟨l, loweredB⟩ := lowersB
  obtain ⟨failure, document, -⟩ := lazy_identities_compared_only.2.2.1 1 (Docs.new 1) mA mB (.new _)
    (List.Perm.swap _ _ []) (by decide) rfl rfl lowersA
  exact ⟨lazy_identities_compared_only.1 _ _ (Docs.new_alike 1 defaultTemplate 0 40) steps, failure,
    document, l, loweredB,
    lazy_identities_compared_only.2.2.2 1 d mB l (.register mA (.new _)) loweredB⟩

end OpenApiGen
