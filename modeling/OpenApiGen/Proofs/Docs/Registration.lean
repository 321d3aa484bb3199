import OpenApiGen.Docs.State
import OpenApiGen.Proofs.Component.Registry

/-!
# Registering a manifest, flattened

A manifest flattens, depth first, into routes under the paths of their mounts and refused mounts;
registering it lowers its definitions and runs those steps up to the first failure
(`register_eq`, `runEntries_prefix`).
-/

namespace OpenApiGen

/-- A step of a flattened manifest: a route under the concatenated paths of its mounts, or a
mount whose path is refused. -/
inductive Entry where
  | route (pre : String) (r : RouteDoc)
  | refused (e : Error)

namespace Entry

/-- Carry out one step: a route's path and inputs are read, and it is recorded under the mount
paths of the state, then `pre`, then its own path. -/
def apply (l : Lowered) : Entry → Docs → Except Error Docs
  | .route pre r, d => do
    let path ← r.path.documented
    let params ← r.params.mapM l.lower
    let body ← r.body.mapM l.lower
    let query ← r.query.mapM l.lower
    let (paths, registry) ← d.paths.record d.registry l.bodies r.method
      (d.fullPath (pre ++ path)) ⟨params, body, query⟩ r.description
    pure { d with paths, registry }
  | .refused e, _ => .error e

end Entry

/-- Carry out steps in order up to the first failure; the state before it and its error. -/
def runEntries (l : Lowered) : List Entry → Docs → Docs × Option Error
  | [], d => (d, none)
  | x :: rest, d =>
    match x.apply l d with
    | .ok d1 => runEntries l rest d1
    | .error e => (d, some e)

mutual
/-- The steps of a mount under the mount paths `pre`: its routes, then its mounts, under its
own path. -/
def flattenMount (pre : String) : MountDoc → List Entry
  | ⟨path, routes, mounts⟩ =>
    match path.documented with
    | .error e => [.refused e]
    | .ok segment => routes.map (.route (pre ++ segment)) ++ flattenMounts (pre ++ segment) mounts

def flattenMounts (pre : String) : List MountDoc → List Entry
  | [] => []
  | m :: rest => flattenMount pre m ++ flattenMounts pre rest
end

/-- The steps of a manifest: its routes, then its mounts. -/
def Manifest.flatten (m : Manifest) : List Entry :=
  m.routes.map (.route "") ++ flattenMounts "" m.mounts

namespace Docs

def withMounts (d : Docs) (ms : List String) : Docs := { d with mounts := ms }

@[simp] theorem withMounts_mounts (d : Docs) (ms : List String) : (d.withMounts ms).mounts = ms := rfl

@[simp] theorem withMounts_withMounts (d : Docs) (ms ms' : List String) :
    (d.withMounts ms).withMounts ms' = d.withMounts ms' := rfl

@[simp] theorem withMounts_self (d : Docs) : d.withMounts d.mounts = d := rfl

@[simp] theorem withMounts_paths (d : Docs) (ms : List String) : (d.withMounts ms).paths = d.paths := rfl

@[simp] theorem withMounts_registry (d : Docs) (ms : List String) :
    (d.withMounts ms).registry = d.registry := rfl

theorem withMounts_of_mounts_eq {d : Docs} {ms : List String} (h : d.mounts = ms) :
    d.withMounts ms = d := by
  rw [← h, withMounts_self]

theorem nest_eq {α : Type} (segment : String) (body : Docs → Docs × α) (d : Docs) :
    d.nest segment body =
      (body (d.withMounts (d.mounts ++ [segment]))).map (fun d1 => d1.withMounts d1.mounts.dropLast) id :=
  rfl

end Docs

open Docs

variable {l : Lowered} {d d1 : Docs}

/-! ## Runs of steps -/

theorem Entry.apply_route_eq_ok {pre : String} {r : RouteDoc} :
    (Entry.route pre r).apply l d = .ok d1 ↔
      ∃ path params body query paths registry, r.path.documented = .ok path ∧
        r.params.mapM l.lower = .ok params ∧ r.body.mapM l.lower = .ok body ∧
        r.query.mapM l.lower = .ok query ∧
        d.paths.record d.registry l.bodies r.method (d.fullPath (pre ++ path)) ⟨params, body, query⟩
          r.description = .ok (paths, registry) ∧
        d1 = { d with paths, registry } := by
  simp only [Entry.apply, Except.bind_eq_ok, Except.pure_eq_ok, Prod.exists]
  constructor
  · rintro ⟨path, documented, params, lp, body, lb, query, lq, paths, registry, recorded, rfl⟩
    exact ⟨path, params, body, query, paths, registry, documented, lp, lb, lq, recorded, rfl⟩
  · rintro ⟨path, params, body, query, paths, registry, documented, lp, lb, lq, recorded, rfl⟩
    exact ⟨path, documented, params, lp, body, lb, query, lq, paths, registry, recorded, rfl⟩

theorem Entry.apply_mounts {x : Entry} (h : x.apply l d = .ok d1) : d1.mounts = d.mounts := by
  cases x with
  | route pre r =>
    obtain ⟨-, -, -, -, -, -, -, -, -, -, -, rfl⟩ := Entry.apply_route_eq_ok.1 h
    rfl
  | refused e => cases h

theorem runEntries_mounts (es : List Entry) (d : Docs) : (runEntries l es d).1.mounts = d.mounts := by
  induction es generalizing d with
  | nil => rfl
  | cons x rest ih =>
    simp only [runEntries]
    split
    · next d2 applied => rw [ih, Entry.apply_mounts applied]
    · rfl

theorem runEntries_map_withMounts (es : List Entry) (d : Docs) :
    (runEntries l es d).map (·.withMounts d.mounts) id = runEntries l es d := by
  cases run : runEntries l es d with
  | mk d1 err =>
    have kept : d1.mounts = d.mounts := by
      have := runEntries_mounts (l := l) es d
      rwa [run] at this
    simp [withMounts_of_mounts_eq kept]

theorem runEntries_append (es es' : List Entry) (d : Docs) :
    runEntries l (es ++ es') d =
      match runEntries l es d with
      | (d1, some e) => (d1, some e)
      | (d1, none) => runEntries l es' d1 := by
  induction es generalizing d with
  | nil => rfl
  | cons x rest ih =>
    simp only [List.cons_append, runEntries]
    split
    · exact ih _
    · rfl

theorem runEntries_prefix (es : List Entry) (d : Docs) :
    ∃ done rest d1, es = done ++ rest ∧ done.foldlM (fun d x => x.apply l d) d = .ok d1 ∧
      ((rest = [] ∧ runEntries l es d = (d1, none)) ∨
        ∃ x rest' e, rest = x :: rest' ∧ x.apply l d1 = .error e ∧
          runEntries l es d = (d1, some e)) := by
  induction es generalizing d with
  | nil => exact ⟨[], [], d, rfl, rfl, .inl ⟨rfl, rfl⟩⟩
  | cons x rest ih =>
    cases applied : x.apply l d with
    | error e =>
      refine ⟨[], x :: rest, d, rfl, rfl, .inr ⟨x, rest, e, rfl, applied, ?_⟩⟩
      simp only [runEntries, applied]
    | ok d2 =>
      obtain ⟨done, rest', d1, split, folded, outcome⟩ := ih d2
      have run : runEntries l (x :: rest) d = runEntries l rest d2 := by
        simp only [runEntries, applied]
      refine ⟨x :: done, rest', d1, by rw [split, List.cons_append], ?_, run ▸ outcome⟩
      rw [List.foldlM_cons, applied]
      exact folded

/-! ## Registration is the flattened run -/

theorem addRoute_eq {base segs : List String} {r : RouteDoc} (stack : d.mounts = base ++ segs) :
    addRoute l r d =
      ((Entry.route (String.join segs) r).apply l (d.withMounts base)).map (·.withMounts d.mounts) := by
  have full : ∀ path, d.fullPath path = (d.withMounts base).fullPath (String.join segs ++ path) := by
    intro path
    simp only [fullPath, withMounts_mounts, stack, String.join_append, String.append_assoc]
  simp only [addRoute, Entry.apply, route, full, withMounts_paths, withMounts_registry]
  rcases r.path.documented with e | path
  · rfl
  rcases r.params.mapM l.lower with e | params
  · rfl
  rcases r.body.mapM l.lower with e | body
  · rfl
  rcases r.query.mapM l.lower with e | query
  · rfl
  simp only [bind, Except.bind]
  cases d.paths.record d.registry l.bodies r.method
      ((d.withMounts base).fullPath (String.join segs ++ path)) ⟨params, body, query⟩ r.description with
  | error e => rfl
  | ok recorded => rfl

theorem addRoutes_eq {base segs : List String} (routes : List RouteDoc) (stack : d.mounts = base ++ segs) :
    addRoutes l routes d =
      (runEntries l (routes.map (.route (String.join segs))) (d.withMounts base)).map
        (·.withMounts d.mounts) id := by
  induction routes generalizing d with
  | nil => rfl
  | cons r rest ih =>
    simp only [addRoutes, List.map_cons, runEntries, addRoute_eq stack]
    cases applied : (Entry.route (String.join segs) r).apply l (d.withMounts base) with
    | error e => rfl
    | ok d2 =>
      have kept : d2.mounts = base := Entry.apply_mounts applied
      have stack2 : (d2.withMounts d.mounts).mounts = base ++ segs := stack
      simp only [Except.map, ih stack2, withMounts_withMounts, withMounts_mounts,
        withMounts_of_mounts_eq kept]

theorem addMount_nested {path : PathDoc} {routes : List RouteDoc} {mounts : List MountDoc}
    {segment : String} {base segs : List String} (documented : path.documented = .ok segment)
    (inner : ∀ d2 : Docs, d2.mounts = base ++ (segs ++ [segment]) → addMounts l mounts d2 =
      (runEntries l (flattenMounts (String.join (segs ++ [segment])) mounts) (d2.withMounts base)).map
        (·.withMounts d2.mounts) id)
    (stack : d.mounts = base ++ segs) :
    addMount l ⟨path, routes, mounts⟩ d =
      (runEntries l (flattenMount (String.join segs) ⟨path, routes, mounts⟩) (d.withMounts base)).map
        (·.withMounts d.mounts) id := by
  have deeper : (d.withMounts (d.mounts ++ [segment])).mounts = base ++ (segs ++ [segment]) := by
    simp [stack]
  have join : String.join segs ++ segment = String.join (segs ++ [segment]) := by simp
  have popped : (d.mounts ++ [segment]).dropLast = d.mounts := List.dropLast_concat
  simp only [addMount, flattenMount, documented, nest_eq, addRoutes_eq routes deeper,
    runEntries_append, withMounts_withMounts, join]
  cases routesRun : runEntries l (routes.map (.route (String.join (segs ++ [segment]))))
      (d.withMounts base) with
  | mk d2 err =>
    have kept : d2.mounts = base := by
      have := runEntries_mounts (l := l) (routes.map (.route (String.join (segs ++ [segment]))))
        (d.withMounts base)
      rwa [routesRun] at this
    cases err with
    | some e => simp [popped]
    | none =>
      have stack2 : (d2.withMounts (d.mounts ++ [segment])).mounts = base ++ (segs ++ [segment]) :=
        deeper
      simp only [Prod.map_apply, id_eq, withMounts_mounts]
      rw [inner _ stack2, Prod.map_map]
      simp only [withMounts_withMounts, withMounts_mounts, withMounts_of_mounts_eq kept]
      congr 1
      funext d3
      simp [popped]

theorem addMounts_cons {mt : MountDoc} {rest : List MountDoc} {base segs : List String}
    (first : ∀ d : Docs, d.mounts = base ++ segs → addMount l mt d =
      (runEntries l (flattenMount (String.join segs) mt) (d.withMounts base)).map
        (·.withMounts d.mounts) id)
    (others : ∀ d : Docs, d.mounts = base ++ segs → addMounts l rest d =
      (runEntries l (flattenMounts (String.join segs) rest) (d.withMounts base)).map
        (·.withMounts d.mounts) id)
    (stack : d.mounts = base ++ segs) :
    addMounts l (mt :: rest) d =
      (runEntries l (flattenMounts (String.join segs) (mt :: rest)) (d.withMounts base)).map
        (·.withMounts d.mounts) id := by
  simp only [addMounts, flattenMounts, runEntries_append, first d stack]
  cases mountRun : runEntries l (flattenMount (String.join segs) mt) (d.withMounts base) with
  | mk d2 err =>
    have kept : d2.mounts = base := by
      simpa [mountRun] using runEntries_mounts (l := l) (flattenMount (String.join segs) mt)
        (d.withMounts base)
    cases err with
    | some e => rfl
    | none =>
      have stack2 : (d2.withMounts d.mounts).mounts = base ++ segs := stack
      simp only [Prod.map_apply, id, others _ stack2, withMounts_withMounts, withMounts_mounts,
        withMounts_of_mounts_eq kept]

mutual
theorem addMount_eq : ∀ (mt : MountDoc) {d : Docs} {base segs : List String},
    d.mounts = base ++ segs →
    addMount l mt d =
      (runEntries l (flattenMount (String.join segs) mt) (d.withMounts base)).map
        (·.withMounts d.mounts) id
  | ⟨path, routes, mounts⟩, d, base, segs, stack => by
    cases documented : path.documented with
    | error e => simp [addMount, flattenMount, documented, runEntries, Entry.apply]
    | ok segment =>
      exact addMount_nested documented (fun _ deeper => addMounts_eq mounts deeper) stack

theorem addMounts_eq : ∀ (mts : List MountDoc) {d : Docs} {base segs : List String},
    d.mounts = base ++ segs →
    addMounts l mts d =
      (runEntries l (flattenMounts (String.join segs) mts) (d.withMounts base)).map
        (·.withMounts d.mounts) id
  | [], _, _, _, _ => rfl
  | mt :: rest, _, _, _, stack =>
    addMounts_cons (fun _ same => addMount_eq mt same) (fun _ same => addMounts_eq rest same) stack
end

theorem register_eq (m : Manifest) (d : Docs) :
    d.register m =
      match m.lower d.nextId with
      | .error e => ({ d with nextId := d.nextId + m.definitions.length }, some e)
      | .ok l => runEntries l m.flatten { d with nextId := d.nextId + m.definitions.length } := by
  cases lowered : m.lower d.nextId with
  | error e => simp [register, lowered]
  | ok l =>
    let d0 : Docs := { d with nextId := d.nextId + m.definitions.length }
    have top : d0.mounts = d0.mounts ++ [] := by simp
    have routesRun := addRoutes_eq (l := l) m.routes top
    simp only [String.join_nil, withMounts_self] at routesRun
    simp only [register, lowered, Manifest.flatten]
    change (match addRoutes l m.routes d0 with
      | (d1, some e) => (d1, some e)
      | (d1, none) => addMounts l m.mounts d1) = runEntries l _ d0
    rw [runEntries_append, routesRun]
    cases run : runEntries l (m.routes.map (.route "")) d0 with
    | mk d1 err =>
      have kept : d1.mounts = d0.mounts := by
        simpa [run] using runEntries_mounts (l := l) (m.routes.map (.route "")) d0
      cases err with
      | some e => simp [withMounts_of_mounts_eq kept]
      | none =>
        have top1 : d1.mounts = d1.mounts ++ [] := by simp
        have mountsRun := addMounts_eq (l := l) m.mounts top1
        simp only [String.join_nil, withMounts_self] at mountsRun
        simp only [Prod.map_apply, id, withMounts_of_mounts_eq kept]
        rw [mountsRun, runEntries_map_withMounts]

/-- Registering a manifest either fails while lowering its definitions, with nothing but the
identity counter changed, or runs a prefix of its flattened steps, each on the state the one
before left, and stops at the first step that fails with the state from before that step; the
mount paths end as they started. -/
theorem register_runs_flattened_prefix (m : Manifest) (d : Docs) :
    ((∃ e, m.lower d.nextId = .error e ∧
        d.register m = ({ d with nextId := d.nextId + m.definitions.length }, some e)) ∨
      ∃ l done rest d1, m.lower d.nextId = .ok l ∧ m.flatten = done ++ rest ∧
        done.foldlM (fun d x => x.apply l d) { d with nextId := d.nextId + m.definitions.length } =
          .ok d1 ∧
        ((rest = [] ∧ d.register m = (d1, none)) ∨
          ∃ x rest' e, rest = x :: rest' ∧ x.apply l d1 = .error e ∧ d.register m = (d1, some e))) ∧
    (d.register m).1.mounts = d.mounts := by
  rw [register_eq]
  cases lowered : m.lower d.nextId with
  | error e => exact ⟨.inl ⟨e, rfl, rfl⟩, rfl⟩
  | ok l =>
    obtain ⟨done, rest, d1, split, folded, outcome⟩ :=
      runEntries_prefix (l := l) m.flatten { d with nextId := d.nextId + m.definitions.length }
    exact ⟨.inr ⟨l, done, rest, d1, rfl, split, folded, outcome⟩, runEntries_mounts _ _⟩

/-! ## Properties a registration keeps -/

section Preserves

variable (P : Docs → Prop) (step : ∀ l (x : Entry) d d1, P d → x.apply l d = .ok d1 → P d1)
include step

theorem runEntries_preserves (es : List Entry) (start : P d) : P (runEntries l es d).1 := by
  induction es generalizing d with
  | nil => exact start
  | cons x rest ih =>
    simp only [runEntries]
    split
    · next d2 applied => exact ih (step l x d d2 start applied)
    · exact start

theorem register_preserves (lowering : ∀ d (n : DefinitionId), P d → P { d with nextId := n })
    (m : Manifest) (start : P d) : P (d.register m).1 := by
  rw [register_eq]
  split
  · exact lowering d _ start
  · exact runEntries_preserves P step _ (lowering d _ start)

end Preserves

theorem Entry.apply_eq_ok {x : Entry} (h : x.apply l d = .ok d1) :
    ∃ bodies m path inputs description paths registry,
      d.paths.record d.registry bodies m path inputs description = .ok (paths, registry) ∧
      d1 = { d with paths, registry } := by
  cases x with
  | route pre r =>
    obtain ⟨path, params, body, query, paths, registry, -, -, -, -, recorded, rfl⟩ :=
      Entry.apply_route_eq_ok.1 h
    exact ⟨_, _, _, _, _, paths, registry, recorded, rfl⟩
  | refused e => cases h

end OpenApiGen
