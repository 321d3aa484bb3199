import OpenApiGen.Proofs.Docs.Registration
import OpenApiGen.Proofs.Route.Assemble

/-!
# Reachable states of a documentation run

A run starts from a new state and registers manifests and resets in any order; every registry it
reaches is valid and counts from the run's first index.
-/

namespace OpenApiGen

namespace Docs

/-- The states of a run counting component names from `first`: a new run with any template, then
registrations and resets in any order. Registering from text reaches no other state (text that
does not read leaves the state as it is), and taking the document changes nothing. -/
inductive Reachable (first : UInt32) : Docs → Prop where
  | new (template : Json) : Reachable first (Docs.new first template)
  | register {d : Docs} (m : Manifest) : Reachable first d → Reachable first (d.register m).1
  | reset {d : Docs} : Reachable first d → Reachable first d.reset

end Docs

open Registry

variable {l : Lowered} {d d1 : Docs}

theorem Entry.apply_grows {x : Entry} (h : x.apply l d = .ok d1) : d.registry.Grows d1.registry := by
  obtain ⟨_, _, _, _, _, _, _, recorded, rfl⟩ := Entry.apply_eq_ok h
  exact record_grows recorded

theorem Entry.apply_valid {x : Entry} (valid : d.registry.Valid) (h : x.apply l d = .ok d1) :
    d1.registry.Valid := by
  obtain ⟨_, _, _, _, _, _, _, recorded, rfl⟩ := Entry.apply_eq_ok h
  exact record_valid valid recorded

theorem register_grows (m : Manifest) (d : Docs) : d.registry.Grows (d.register m).1.registry :=
  register_preserves (fun d' => d.registry.Grows d'.registry)
    (fun _ _ _ _ grown applied => grown.trans (Entry.apply_grows applied))
    (fun _ _ grown => grown) m (Grows.refl _)

theorem register_valid (m : Manifest) (valid : d.registry.Valid) : (d.register m).1.registry.Valid :=
  register_preserves (fun d' => d'.registry.Valid)
    (fun _ _ _ _ valid applied => Entry.apply_valid valid applied)
    (fun _ _ valid => valid) m valid

theorem Docs.Reachable.first_eq {first : UInt32} (reachable : d.Reachable first) :
    d.registry.first = first := by
  induction reachable with
  | new template => rfl
  | register m _ ih => exact (register_grows m _).first.trans ih
  | reset _ ih => exact ih

theorem Docs.Reachable.valid {first : UInt32} (reachable : d.Reachable first) : d.registry.Valid := by
  induction reachable with
  | new template => exact valid_new first
  | register m _ ih => exact register_valid m ih
  | @reset d _ _ =>
    show d.registry.reset.Valid
    rw [reset_eq]
    exact valid_new _

/-- In every state a run reaches, the registry counts from the run's first index and is valid:
its generated names are the run of `type` names from there up to the counter, in order and each
once, the only other name is `anyType` with its fixed schema and present exactly when memoized,
and the memo maps distinct definitions to distinct generated names. A registration from there
keeps every memo entry. -/
theorem reachable_registry_valid {first : UInt32} (reachable : d.Reachable first) :
    d.registry.first = first ∧ d.registry.Valid ∧
      ∀ (m : Manifest) k x, d.registry.lookup k = some x →
        (d.register m).1.registry.lookup k = some x :=
  ⟨reachable.first_eq, reachable.valid, fun m k x memoized => (register_grows m d).lookup k x memoized⟩

/-- A run from 7 that registers a route whose body refers to a definition, resets, and registers
it again. -/
theorem registry_valid_after_reset :
    let m : Manifest :=
      { definitions := [("D", { kind := "bigint" })],
        routes := [{ method := .post, path := .literal "/a",
                     body := some { kind := "ref", name := some "D" } }] }
    let d := (((Docs.new 7).register m).1.reset.register m).1
    d.Reachable 7 ∧ d.registry.first = 7 ∧ d.registry.Valid ∧
      ∀ (m : Manifest) k x, d.registry.lookup k = some x →
        (d.register m).1.registry.lookup k = some x := by
  intro m d
  have reachable : d.Reachable 7 := .register m (.reset (.register m (.new _)))
  exact ⟨reachable, reachable_registry_valid reachable⟩

end OpenApiGen
