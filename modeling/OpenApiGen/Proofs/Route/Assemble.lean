import OpenApiGen.Route.Assemble
import OpenApiGen.Proofs.Schema.Convert

/-!
# What documenting a route does to the registry

`record_preserves` turns a registry property that every conversion and the hoisting of a record
body keep into one that documenting a route keeps; growth and validity follow.
-/

namespace OpenApiGen

variable {c : Category} {b : Bodies} {r r' : Registry}

/-! ## Inversion -/

theorem fieldParameters_cons_eq_ok {loc : Location} {name : String} {field : Schema}
    {rest : List (String × Schema)} {ps : List Parameter} :
    fieldParameters c b loc ((name, field) :: rest) r = .ok (ps, r') ↔
      ∃ j r1 ps', convert c b field r = .ok (j, r1) ∧ fieldParameters c b loc rest r1 = .ok (ps', r') ∧
        ps = fieldParameter loc name field j :: ps' := by
  simp only [fieldParameters, Except.bind_eq_ok, Except.pure_eq_ok, Prod.exists, Prod.mk.injEq]
  constructor
  · rintro ⟨j, r1, converted, ps', r2, rest, rfl, rfl⟩
    exact ⟨j, r1, ps', converted, rest, rfl⟩
  · rintro ⟨j, r1, ps', converted, rest, rfl⟩
    exact ⟨j, r1, converted, ps', r', rest, rfl, rfl⟩

theorem fieldParameters_nil_eq_ok {loc : Location} {ps : List Parameter} :
    fieldParameters c b loc [] r = .ok (ps, r') ↔ ps = [] ∧ r' = r := by
  simp [fieldParameters, eq_comm]

theorem parameters_eq_ok {root : Schema} {ps : List Parameter} (h : parameters c b root r = .ok (ps, r')) :
    (∃ loc fs, resolveRoot b root = some (.object fs) ∧ fieldParameters c b loc fs r = .ok (ps, r')) ∨
      (ps = [] ∧ r' = r) := by
  unfold parameters at h
  extract_lets loc at h
  split at h
  · next fs resolved => exact .inl ⟨loc, fs, resolved, h⟩
  · cases h
  · simp only [Except.ok.injEq, Prod.mk.injEq] at h
    exact .inr ⟨h.1.symm, h.2.symm⟩

theorem objectOptions_eq_ok {opts : List Schema} {js : List Json}
    (h : objectOptions b opts r = .ok (js, r')) :
    (opts = [] ∧ js = [] ∧ r' = r) ∨
      ∃ fs rest j r1 js', opts = .object fs :: rest ∧ convert .body b (.object fs) r = .ok (j, r1) ∧
        objectOptions b rest r1 = .ok (js', r') ∧ js = j :: js' := by
  match opts with
  | [] =>
    simp only [objectOptions, Except.ok.injEq, Prod.mk.injEq] at h
    exact .inl ⟨rfl, h.1.symm, h.2.symm⟩
  | .object fs :: rest =>
    simp only [objectOptions, Except.bind_eq_ok, Except.pure_eq_ok, Prod.exists, Prod.mk.injEq] at h
    obtain ⟨j, r1, converted, js', r2, others, rfl, rfl⟩ := h
    exact .inr ⟨fs, rest, j, r1, js', rfl, converted, others, rfl⟩
  | .primitive _ :: _ | .array _ :: _ | .tuple _ :: _ | .union _ :: _ | .enum _ :: _
  | .record _ :: _ | .ref _ :: _ | .other _ :: _ => cases h

theorem bodySchema_eq_ok {root : Schema} {s : Json} (h : bodySchema b root r = .ok (s, r')) :
    (∃ opts js, root = .union opts ∧ objectOptions b opts r = .ok (js, r') ∧
      s = .object [("anyOf", .array js)]) ∨
    (∃ n name r1 d r2, root = .record n ∧ r.reserve none = .ok (name, r1) ∧
      convert .body b n r1 = .ok (d, r2) ∧ s = reference name ∧ r' = r2.register none name d) ∨
    ((∀ opts, root ≠ .union opts) ∧ (∀ n, root ≠ .record n) ∧ convert .body b root r = .ok (s, r')) := by
  unfold bodySchema at h
  split at h
  · next opts =>
    simp only [Except.bind_eq_ok, Except.pure_eq_ok, Prod.exists, Prod.mk.injEq] at h
    obtain ⟨js, r1, options, rfl, rfl⟩ := h
    exact .inl ⟨opts, js, rfl, options, rfl⟩
  · next n =>
    simp only [Except.bind_eq_ok, Except.pure_eq_ok, Prod.exists, Prod.mk.injEq] at h
    obtain ⟨name, r1, reserved, d, r2, converted, rfl, rfl⟩ := h
    exact .inr (.inl ⟨n, name, r1, d, r2, rfl, reserved, converted, rfl, rfl⟩)
  · next notUnion notRecord =>
    exact .inr (.inr ⟨fun opts same => notUnion opts same, fun n same => notRecord n same, h⟩)

theorem assemble_eq_ok {inputs : RouteInputs} {description : Option String} {op : Operation}
    (h : assemble b inputs description r = .ok (op, r')) :
    ∃ ps r1 body r2 qs, optionalParameters .params b inputs.params r = .ok (ps, r1) ∧
      optionalBody b inputs.body r1 = .ok (body, r2) ∧
      optionalParameters .query b inputs.query r2 = .ok (qs, r') ∧
      op = { description, parameters := ps ++ qs, requestBody := body } := by
  simp only [assemble, Except.bind_eq_ok, Except.pure_eq_ok, Prod.exists, Prod.mk.injEq] at h
  obtain ⟨ps, r1, params, body, r2, bodyStep, qs, r3, query, rfl, rfl⟩ := h
  exact ⟨ps, r1, body, r2, qs, params, bodyStep, query, rfl⟩

theorem record_eq_ok {t t' : PathTable} {m : Method} {path : String} {inputs : RouteInputs}
    {description : Option String} (h : t.record r b m path inputs description = .ok (t', r')) :
    ∃ op, assemble b inputs description r = .ok (op, r') ∧ t' = t.add (pathTemplate path) m op := by
  simp only [PathTable.record, Except.bind_eq_ok, Except.pure_eq_ok, Prod.exists, Prod.mk.injEq] at h
  obtain ⟨op, r1, assembled, rfl, rfl⟩ := h
  exact ⟨op, assembled, rfl⟩

/-! ## Properties a route keeps -/

section Preserves

variable (P : Registry → Prop)
  (conv : ∀ c o n r v r', P r → convert c o n r = .ok (v, r') → P r')
  (hoist : ∀ o n r name r1 v r2, P r → r.reserve none = .ok (name, r1) →
    convert .body o n r1 = .ok (v, r2) → P (r2.register none name v))
include conv

theorem fieldParameters_preserves {loc : Location} {fs : List (String × Schema)} {ps : List Parameter}
    (start : P r) (h : fieldParameters c b loc fs r = .ok (ps, r')) : P r' := by
  induction fs generalizing r ps with
  | nil =>
    rw [(fieldParameters_nil_eq_ok.1 h).2]
    exact start
  | cons field rest ih =>
    obtain ⟨name, n⟩ := field
    obtain ⟨j, r1, ps', converted, others, -⟩ := fieldParameters_cons_eq_ok.1 h
    exact ih (conv _ _ _ _ _ _ start converted) others

theorem parameters_preserves {root : Schema} {ps : List Parameter} (start : P r)
    (h : parameters c b root r = .ok (ps, r')) : P r' := by
  rcases parameters_eq_ok h with ⟨loc, fs, -, fields⟩ | ⟨-, rfl⟩
  · exact fieldParameters_preserves P conv start fields
  · exact start

theorem objectOptions_preserves {opts : List Schema} {js : List Json} (start : P r)
    (h : objectOptions b opts r = .ok (js, r')) : P r' := by
  induction opts generalizing r js with
  | nil =>
    rcases objectOptions_eq_ok h with ⟨-, -, rfl⟩ | ⟨_, _, _, _, _, impossible, -⟩
    · exact start
    · cases impossible
  | cons opt rest ih =>
    rcases objectOptions_eq_ok h with ⟨impossible, -⟩ | ⟨fs, rest', j, r1, js', same, converted, others, -⟩
    · cases impossible
    · cases same
      exact ih (conv _ _ _ _ _ _ start converted) others

theorem optionalParameters_preserves {root : Option Schema} {ps : List Parameter} (start : P r)
    (h : optionalParameters c b root r = .ok (ps, r')) : P r' := by
  cases root with
  | some n => exact parameters_preserves P conv start h
  | none =>
    simp only [optionalParameters, Except.ok.injEq, Prod.mk.injEq] at h
    exact h.2 ▸ start

include hoist

theorem bodySchema_preserves {root : Schema} {s : Json} (start : P r)
    (h : bodySchema b root r = .ok (s, r')) : P r' := by
  rcases bodySchema_eq_ok h with ⟨opts, js, -, options, -⟩ |
      ⟨n, name, r1, d, r2, -, reserved, converted, -, rfl⟩ | ⟨-, -, converted⟩
  · exact objectOptions_preserves P conv start options
  · exact hoist _ _ _ _ _ _ _ start reserved converted
  · exact conv _ _ _ _ _ _ start converted

theorem optionalBody_preserves {root : Option Schema} {body : Option Json} (start : P r)
    (h : optionalBody b root r = .ok (body, r')) : P r' := by
  cases root with
  | some n =>
    simp only [optionalBody, Except.bind_eq_ok, Except.pure_eq_ok, Prod.exists, Prod.mk.injEq] at h
    obtain ⟨s, r1, schema, -, rfl⟩ := h
    exact bodySchema_preserves P conv hoist start schema
  | none =>
    simp only [optionalBody, Except.ok.injEq, Prod.mk.injEq] at h
    exact h.2 ▸ start

theorem record_preserves {t t' : PathTable} {m : Method} {path : String} {inputs : RouteInputs}
    {description : Option String} (start : P r)
    (h : t.record r b m path inputs description = .ok (t', r')) : P r' := by
  obtain ⟨op, assembled, -⟩ := record_eq_ok h
  obtain ⟨ps, r1, body, r2, qs, params, bodyStep, query, -⟩ := assemble_eq_ok assembled
  have first : P r1 := optionalParameters_preserves P conv start params
  have second : P r2 := optionalBody_preserves P conv hoist first bodyStep
  exact optionalParameters_preserves P conv second query

end Preserves

open Registry

section Growth

variable {r0 : Registry}

theorem grows_convert_step :
    ∀ c o n r v r', r0.Grows r → convert c o n r = .ok (v, r') → r0.Grows r' :=
  fun _ _ _ _ _ _ grown converted => grown.trans (convert_grows converted)

theorem grows_hoist_step :
    ∀ o n r name r1 v r2, r0.Grows r → r.reserve none = .ok (name, r1) →
      convert .body o n r1 = .ok (v, r2) → r0.Grows (r2.register none name v) :=
  fun _ _ _ _ _ _ _ grown reserved converted =>
    ((grown.trans (grows_reserve reserved (by simp))).trans (convert_grows converted)).trans
      grows_register_none

end Growth

theorem fieldParameters_grows {loc : Location} {fs : List (String × Schema)} {ps : List Parameter}
    (h : fieldParameters c b loc fs r = .ok (ps, r')) : r.Grows r' :=
  fieldParameters_preserves r.Grows grows_convert_step (Grows.refl r) h

theorem objectOptions_grows {opts : List Schema} {js : List Json}
    (h : objectOptions b opts r = .ok (js, r')) : r.Grows r' :=
  objectOptions_preserves r.Grows grows_convert_step (Grows.refl r) h

theorem optionalParameters_grows {root : Option Schema} {ps : List Parameter}
    (h : optionalParameters c b root r = .ok (ps, r')) : r.Grows r' :=
  optionalParameters_preserves r.Grows grows_convert_step (Grows.refl r) h

theorem optionalBody_grows {root : Option Schema} {body : Option Json}
    (h : optionalBody b root r = .ok (body, r')) : r.Grows r' :=
  optionalBody_preserves r.Grows grows_convert_step grows_hoist_step (Grows.refl r) h

theorem record_grows {t t' : PathTable} {m : Method} {path : String} {inputs : RouteInputs}
    {description : Option String} (h : t.record r b m path inputs description = .ok (t', r')) :
    r.Grows r' :=
  record_preserves r.Grows grows_convert_step grows_hoist_step (Grows.refl r) h

theorem valid_convert_step :
    ∀ c o n (r : Registry) v r', r.Valid → convert c o n r = .ok (v, r') → r'.Valid :=
  fun _ _ _ _ _ _ valid converted => convert_valid valid converted

theorem valid_hoist_step :
    ∀ o n (r : Registry) name r1 v r2, r.Valid → r.reserve none = .ok (name, r1) →
      convert .body o n r1 = .ok (v, r2) → (r2.register none name v).Valid := by
  intro o n r name r1 v r2 valid reserved converted
  obtain ⟨valid1, member, generated⟩ := valid.of_reserve reserved (by simp)
  exact (convert_valid valid1 converted).fill ((convert_grows converted).keys member) generated

theorem optionalParameters_valid {root : Option Schema} {ps : List Parameter} (valid : r.Valid)
    (h : optionalParameters c b root r = .ok (ps, r')) : r'.Valid :=
  optionalParameters_preserves Valid valid_convert_step valid h

theorem optionalBody_valid {root : Option Schema} {body : Option Json} (valid : r.Valid)
    (h : optionalBody b root r = .ok (body, r')) : r'.Valid :=
  optionalBody_preserves Valid valid_convert_step valid_hoist_step valid h

theorem record_valid {t t' : PathTable} {m : Method} {path : String} {inputs : RouteInputs}
    {description : Option String} (valid : r.Valid)
    (h : t.record r b m path inputs description = .ok (t', r')) : r'.Valid :=
  record_preserves Valid valid_convert_step valid_hoist_step valid h

end OpenApiGen
