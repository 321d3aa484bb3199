import Mathlib.Control.Traversable.Instances
import OpenApiGen.Proofs.Schema.Closure
import OpenApiGen.Proofs.Docs.Reachable

/-!
# Every generated reference resolves

Between routes the registry is sealed (`Registry.Sealed`); documenting a route keeps it sealed and
records operations whose references name stored components, so in every reachable state the
document resolves every `$ref` it holds (`reachable_references_resolve`).
-/

namespace OpenApiGen

open Registry

/-! ## Parameters and operations -/

/-- A parameter whose schema is `{}` stands for a component: its description names it. -/
def Parameter.NotesComponent (keys : List String) (p : Parameter) : Prop :=
  ∃ c ∈ keys, (c = anyTypeName ∧ p.description = some ("reffered to type " ++ anyTypeName)) ∨
    (c ≠ anyTypeName ∧ p.description = some ("reffered to " ++ c))

/-- The parameter's references are among `keys`, and with schema `{}` it notes one of them. -/
structure Parameter.Resolves (keys : List String) (p : Parameter) : Prop where
  refs : ∀ y ∈ p.schema.refs, y ∈ keys
  note : p.schema = .object [] → p.NotesComponent keys

/-- The operation's parameters resolve, and so do the references of its request body. -/
structure Operation.Resolves (keys : List String) (op : Operation) : Prop where
  parameters : ∀ p ∈ op.parameters, p.Resolves keys
  body : ∀ s, op.requestBody = some s → ∀ y ∈ s.refs, y ∈ keys

def PathTable.Resolves (keys : List String) (t : PathTable) : Prop :=
  ∀ e ∈ t, ∀ mo ∈ e.2, mo.2.Resolves keys

variable {keys keys' : List String}

theorem Parameter.Resolves.mono {p : Parameter} (resolves : p.Resolves keys) (sub : keys ⊆ keys') :
    p.Resolves keys' where
  refs y mentioned := sub (resolves.refs y mentioned)
  note empty := by
    obtain ⟨c, member, named⟩ := resolves.note empty
    exact ⟨c, sub member, named⟩

theorem Operation.Resolves.mono {op : Operation} (resolves : op.Resolves keys) (sub : keys ⊆ keys') :
    op.Resolves keys' :=
  ⟨fun p member => (resolves.parameters p member).mono sub,
    fun s body y mentioned => sub (resolves.body s body y mentioned)⟩

theorem PathTable.Resolves.mono {t : PathTable} (resolves : t.Resolves keys) (sub : keys ⊆ keys') :
    t.Resolves keys' :=
  fun e member mo method => (resolves e member mo method).mono sub

theorem refs_empty_object : (Json.object []).refs = [] := by
  simp [Json.refs_object, referencedName?, Json.get?, Fields.get?, Json.refsFields]

theorem fieldParameter_resolves {loc : Location} {name : String} {field : Schema} {j : Json}
    (stored : ∀ y ∈ j.refs, y ∈ keys) (nonempty : j ≠ .object []) :
    (fieldParameter loc name field j).Resolves keys := by
  unfold fieldParameter
  cases named : referencedName? j with
  | some c =>
    have member : c ∈ keys := stored c (Json.mem_refs_of_referencedName? named)
    by_cases any : c = anyTypeName
    · refine ⟨by simp [any, refs_empty_object], fun _ => ⟨c, member, .inl ⟨any, ?_⟩⟩⟩
      simp [any]
    · refine ⟨by simp [any, refs_empty_object], fun _ => ⟨c, member, .inr ⟨any, ?_⟩⟩⟩
      simp [any]
  | none =>
    exact ⟨stored, fun empty => absurd empty nonempty⟩

theorem Operation.merge_resolves {earlier later : Operation} (first : earlier.Resolves keys)
    (second : later.Resolves keys) : (earlier.merge later).Resolves keys where
  parameters p member := by
    rcases List.mem_append.1 member with early | late
    · exact first.parameters p early
    · exact second.parameters p late
  body s given := by
    simp only [Operation.merge] at given
    cases bodyLater : later.requestBody with
    | some s' =>
      rw [bodyLater] at given
      cases given
      exact second.body s bodyLater
    | none =>
      rw [bodyLater] at given
      exact first.body s given

theorem PathTable.mem_addMethod {ms : List (Method × Operation)} {m : Method} {op : Operation}
    {mo : Method × Operation} (member : mo ∈ PathTable.addMethod ms m op) :
    mo ∈ ms ∨ mo = (m, op) ∨ ∃ m' o, (m', o) ∈ ms ∧ mo = (m', o.merge op) := by
  induction ms with
  | nil => simpa [PathTable.addMethod] using member
  | cons head rest ih =>
    obtain ⟨m', o⟩ := head
    simp only [PathTable.addMethod] at member
    split at member
    · rcases List.mem_cons.1 member with rfl | later
      · exact .inr (.inr ⟨m', o, by simp, rfl⟩)
      · exact .inl (List.mem_cons_of_mem _ later)
    · rcases List.mem_cons.1 member with rfl | later
      · exact .inl (by simp)
      · rcases ih later with old | new | ⟨m'', o', found, rfl⟩
        · exact .inl (List.mem_cons_of_mem _ old)
        · exact .inr (.inl new)
        · exact .inr (.inr ⟨m'', o', List.mem_cons_of_mem _ found, rfl⟩)

theorem PathTable.mem_add {t : PathTable} {key : String} {m : Method} {op : Operation}
    {e : String × List (Method × Operation)} (member : e ∈ t.add key m op) :
    e ∈ t ∨ e = (key, [(m, op)]) ∨ ∃ k ms, (k, ms) ∈ t ∧ e = (k, PathTable.addMethod ms m op) := by
  induction t with
  | nil => simpa [PathTable.add] using member
  | cons head rest ih =>
    obtain ⟨k, ms⟩ := head
    simp only [PathTable.add] at member
    split at member
    · rcases List.mem_cons.1 member with rfl | later
      · exact .inr (.inr ⟨k, ms, by simp, rfl⟩)
      · exact .inl (List.mem_cons_of_mem _ later)
    · rcases List.mem_cons.1 member with rfl | later
      · exact .inl (by simp)
      · rcases ih later with old | new | ⟨k', ms', found, rfl⟩
        · exact .inl (List.mem_cons_of_mem _ old)
        · exact .inr (.inl new)
        · exact .inr (.inr ⟨k', ms', List.mem_cons_of_mem _ found, rfl⟩)

theorem PathTable.add_resolves {t : PathTable} {key : String} {m : Method} {op : Operation}
    (table : t.Resolves keys) (resolves : op.Resolves keys) : (t.add key m op).Resolves keys := by
  intro e member mo method
  rcases PathTable.mem_add member with old | rfl | ⟨k, ms, found, rfl⟩
  · exact table e old mo method
  · simp only [List.mem_singleton] at method
    rw [method]
    exact resolves
  · rcases PathTable.mem_addMethod method with old | rfl | ⟨m', o, found', rfl⟩
    · exact table _ found mo old
    · exact resolves
    · exact Operation.merge_resolves (table _ found _ found') resolves

/-! ## Documenting a route from a sealed registry -/

variable {c : Category} {b : Bodies} {r r' : Registry}

theorem fieldParameters_resolves {loc : Location} :
    ∀ {fs : List (String × Schema)} {r r' : Registry} {ps : List Parameter}, r.Sealed →
      fieldParameters c b loc fs r = .ok (ps, r') →
      r'.Sealed ∧ ∀ p ∈ ps, p.Resolves r'.schemas.keys
  | [], _, _, _, sealed, h => by
    obtain ⟨rfl, rfl⟩ := fieldParameters_nil_eq_ok.1 h
    exact ⟨sealed, by simp⟩
  | (_, field) :: _, _, _, _, sealed, h => by
    obtain ⟨j, r1, ps', converted, others, rfl⟩ := fieldParameters_cons_eq_ok.1 h
    have closes := convert_closes sealed.closed converted
    obtain ⟨sealed', resolved⟩ := fieldParameters_resolves (closes.sealed sealed) others
    refine ⟨sealed', fun p member => ?_⟩
    rcases List.mem_cons.1 member with rfl | later
    · obtain ⟨f, fs, nonempty⟩ := convert_nonempty field converted
      exact (fieldParameter_resolves closes.stored (by simp [nonempty])).mono
        (fieldParameters_grows others).keys
    · exact resolved p later

theorem optionalParameters_resolves {root : Option Schema} {ps : List Parameter} (sealed : r.Sealed)
    (h : optionalParameters c b root r = .ok (ps, r')) :
    r'.Sealed ∧ ∀ p ∈ ps, p.Resolves r'.schemas.keys := by
  cases root with
  | none =>
    simp only [optionalParameters, Except.ok.injEq, Prod.mk.injEq] at h
    obtain ⟨rfl, rfl⟩ := h
    exact ⟨sealed, by simp⟩
  | some root =>
    rcases parameters_eq_ok h with ⟨loc, fs, -, fields⟩ | ⟨rfl, rfl⟩
    · exact fieldParameters_resolves sealed fields
    · exact ⟨sealed, by simp⟩

theorem objectOptions_resolves :
    ∀ {opts : List Schema} {r r' : Registry} {js : List Json}, r.Sealed →
      objectOptions b opts r = .ok (js, r') →
      r'.Sealed ∧ ∀ y ∈ Json.refsAll js, y ∈ r'.schemas.keys
  | [], _, _, _, sealed, h => by
    rcases objectOptions_eq_ok h with ⟨-, rfl, rfl⟩ | ⟨_, _, _, _, _, impossible, -⟩
    · exact ⟨sealed, by simp⟩
    · cases impossible
  | _ :: _, _, _, _, sealed, h => by
    rcases objectOptions_eq_ok h with ⟨impossible, -⟩ |
        ⟨fs, rest, j, r1, js', same, converted, others, rfl⟩
    · cases impossible
    · cases same
      have closes := convert_closes sealed.closed converted
      obtain ⟨sealed', resolved⟩ := objectOptions_resolves (closes.sealed sealed) others
      refine ⟨sealed', fun y mentioned => ?_⟩
      simp only [Json.refsAll, List.mem_append] at mentioned
      rcases mentioned with here | later
      · exact (objectOptions_grows others).keys (closes.stored y here)
      · exact resolved y later

theorem bodySchema_resolves {root : Schema} {s : Json} (sealed : r.Sealed)
    (h : bodySchema b root r = .ok (s, r')) : r'.Sealed ∧ ∀ y ∈ s.refs, y ∈ r'.schemas.keys := by
  rcases bodySchema_eq_ok h with ⟨opts, js, -, options, rfl⟩ |
      ⟨n, name, r1, d, r2, -, reserved, converted, rfl, rfl⟩ | ⟨-, -, converted⟩
  · obtain ⟨sealed', resolved⟩ := objectOptions_resolves sealed options
    refine ⟨sealed', fun y mentioned => resolved y ?_⟩
    simpa [Json.refs_object, referencedName?, Json.get?, Fields.get?, Json.refsFields] using mentioned
  · -- a record body is hoisted into a component of its own
    have reservedClosed := (sealed.closed.reserve reserved (by simp)).1
    obtain ⟨f, fs, rfl⟩ := convert_nonempty n converted
    have closes := Closes.hoist sealed.closed reserved (by simp)
      (convert_closes reservedClosed converted) (by simp)
    exact ⟨closes.sealed sealed, by simp⟩
  · have closes := convert_closes sealed.closed converted
    exact ⟨closes.sealed sealed, closes.stored⟩

theorem optionalBody_resolves {root : Option Schema} {body : Option Json} (sealed : r.Sealed)
    (h : optionalBody b root r = .ok (body, r')) :
    r'.Sealed ∧ ∀ s, body = some s → ∀ y ∈ s.refs, y ∈ r'.schemas.keys := by
  cases root with
  | none =>
    simp only [optionalBody, Except.ok.injEq, Prod.mk.injEq] at h
    obtain ⟨rfl, rfl⟩ := h
    exact ⟨sealed, by simp⟩
  | some root =>
    simp only [optionalBody, Except.bind_eq_ok, Except.pure_eq_ok, Prod.exists, Prod.mk.injEq] at h
    obtain ⟨s, r1, schema, rfl, rfl⟩ := h
    obtain ⟨sealed', resolved⟩ := bodySchema_resolves sealed schema
    exact ⟨sealed', fun s' same => by cases same; exact resolved⟩

theorem assemble_resolves {inputs : RouteInputs} {description : Option String} {op : Operation}
    (sealed : r.Sealed) (h : assemble b inputs description r = .ok (op, r')) :
    r'.Sealed ∧ op.Resolves r'.schemas.keys := by
  obtain ⟨ps, r1, body, r2, qs, params, bodyStep, query, rfl⟩ := assemble_eq_ok h
  obtain ⟨sealed1, paramsResolve⟩ := optionalParameters_resolves sealed params
  obtain ⟨sealed2, bodyResolves⟩ := optionalBody_resolves sealed1 bodyStep
  obtain ⟨sealed3, queryResolve⟩ := optionalParameters_resolves sealed2 query
  -- what the earlier stages stored stays stored through the later ones
  have later1 := ((optionalBody_grows bodyStep).trans (optionalParameters_grows query)).keys
  have later2 := (optionalParameters_grows query).keys
  refine ⟨sealed3, fun p member => ?_, fun s given y mentioned => later2 (bodyResolves s given y mentioned)⟩
  rcases List.mem_append.1 member with early | late
  · exact (paramsResolve p early).mono later1
  · exact queryResolve p late

theorem record_resolves {t t' : PathTable} {m : Method} {path : String} {inputs : RouteInputs}
    {description : Option String} (sealed : r.Sealed) (table : t.Resolves r.schemas.keys)
    (h : t.record r b m path inputs description = .ok (t', r')) :
    r'.Sealed ∧ t'.Resolves r'.schemas.keys := by
  have grows := record_grows h
  obtain ⟨op, assembled, rfl⟩ := record_eq_ok h
  obtain ⟨sealed', resolves⟩ := assemble_resolves sealed assembled
  exact ⟨sealed', PathTable.add_resolves (table.mono grows.keys) resolves⟩

/-! ## The path document -/

theorem refs_jsonBody (s : Json) : (Operation.jsonBody s).refs = s.refs := by
  simp [Operation.jsonBody, Json.refs_object, referencedName?, Json.get?, Fields.get?, Json.refsFields]

theorem Parameter.refs_toJson (p : Parameter) : p.toJson.refs = p.schema.refs := by
  rcases p with ⟨loc, name, required, description, schema⟩
  cases loc <;> cases description <;>
    simp [Parameter.toJson, Json.refs_object, referencedName?, Json.get?, Fields.get?, Json.refsFields]

theorem Operation.refs_toJson {op : Operation} (resolves : op.Resolves keys) :
    ∀ y ∈ op.toJson.refs, y ∈ keys := by
  intro y mentioned
  rcases op with ⟨description, parameters, requestBody⟩
  rw [Operation.toJson, Json.refs_object_of_not_mem, Json.refsFields_append, Json.refsFields_append]
    at mentioned
  · simp only [List.mem_append] at mentioned
    rcases mentioned with (described | listed) | body
    · cases description <;> simp [Json.refsFields] at described
    · split at listed
      · simp [Json.refsFields] at listed
      · simp only [Json.refsFields, Json.refs_array, List.append_nil, Json.mem_refsAll,
          List.mem_map] at listed
        obtain ⟨_, ⟨p, member, rfl⟩, mentioned⟩ := listed
        rw [Parameter.refs_toJson] at mentioned
        exact (resolves.parameters p member).refs y mentioned
    · cases given : requestBody with
      | none => simp [given, Json.refsFields] at body
      | some s =>
        simp only [given, Json.refsFields, refs_jsonBody, List.append_nil] at body
        exact resolves.body s given y body
  · -- the operation object's keys are among description, parameters and requestBody
    cases description <;> cases requestBody <;> split <;> simp [Fields.keys]

theorem PathTable.refs_toJson {t : PathTable} (resolves : t.Resolves keys) :
    ∀ y ∈ t.toJson.refs, y ∈ keys := by
  intro y mentioned
  -- neither the paths object nor a path's methods object is a reference: their values are objects
  rw [PathTable.toJson, Json.refs_object, referencedName?_of_objects] at mentioned
  · simp only [Option.toList_none, List.nil_append, Json.mem_refsFields, List.mem_map] at mentioned
    obtain ⟨_, ⟨⟨k, ms⟩, member, rfl⟩, mentioned⟩ := mentioned
    dsimp only at mentioned
    rw [Json.refs_object, referencedName?_of_objects] at mentioned
    · simp only [Option.toList_none, List.nil_append, Json.mem_refsFields, List.mem_map] at mentioned
      obtain ⟨_, ⟨⟨m, op⟩, method, rfl⟩, mentioned⟩ := mentioned
      exact Operation.refs_toJson (resolves _ member _ method) y mentioned
    · intro p member
      obtain ⟨⟨m, op⟩, -, rfl⟩ := List.mem_map.1 member
      exact ⟨_, rfl⟩
  · intro p member
    obtain ⟨⟨k, ms⟩, -, rfl⟩ := List.mem_map.1 member
    exact ⟨_, rfl⟩

/-! ## Every reachable state -/

/-- The registry is sealed and every operation of the table resolves in it. -/
structure Docs.Closed (d : Docs) : Prop where
  sealed : d.registry.Sealed
  paths : d.paths.Resolves d.registry.schemas.keys

variable {l : Lowered} {d d1 : Docs}

theorem Entry.apply_closed {x : Entry} (closed : d.Closed) (h : x.apply l d = .ok d1) : d1.Closed := by
  obtain ⟨_, _, _, _, _, paths, registry, recorded, rfl⟩ := Entry.apply_eq_ok h
  obtain ⟨sealed, resolves⟩ := record_resolves closed.sealed closed.paths recorded
  exact ⟨sealed, resolves⟩

theorem register_closed (m : Manifest) (closed : d.Closed) : (d.register m).1.Closed :=
  register_preserves Docs.Closed (fun _ _ _ _ closed applied => Entry.apply_closed closed applied)
    (fun _ _ closed => ⟨closed.sealed, closed.paths⟩) m closed

theorem Docs.Reachable.closed {first : UInt32} (reachable : d.Reachable first) : d.Closed := by
  induction reachable with
  | new template => exact ⟨sealed_new first, by simp [PathTable.Resolves, Docs.new]⟩
  | register m _ ih => exact register_closed m ih
  | @reset d _ _ =>
    refine ⟨?_, by simp [PathTable.Resolves, Docs.reset]⟩
    show d.registry.reset.Sealed
    rw [reset_eq]
    exact sealed_new _

/-! ## The document -/

/-- The definition a document holds for a component, under `components.schemas`. -/
def Json.componentSchema? (doc : Json) (name : String) : Option Json :=
  ((doc.get? "components").bind (·.get? "schemas")).bind (·.get? name)

theorem mergeTemplate_componentSchema? (template : Json) (paths schemas : Fields)
    (unique : schemas.keys.Nodup) {x : String} (member : x ∈ schemas.keys) :
    (mergeTemplate template paths schemas).componentSchema? x = schemas.get? x := by
  simp only [mergeTemplate, Json.componentSchema?, Json.get?, Fields.get?_insert_self,
    Option.bind_some]
  exact Fields.get?_extend unique member _

theorem document_componentSchema? (valid : d.registry.Valid) {x : String}
    (member : x ∈ d.registry.schemas.keys) : d.document.componentSchema? x = d.registry.get? x := by
  simp only [Docs.document, PathTable.toJson]
  exact mergeTemplate_componentSchema? _ _ _ valid.nodup member

theorem Docs.Reachable.resolves {first : UInt32} (reachable : d.Reachable first) {y : String}
    (member : y ∈ d.registry.schemas.keys) :
    ∃ v, d.registry.get? y = some v ∧ v ≠ .object [] ∧ d.document.componentSchema? y = some v := by
  obtain ⟨v, found⟩ := Option.isSome_iff_exists.1 (Fields.get?_isSome_iff.2 member)
  exact ⟨v, found, reachable.closed.sealed.get?_ne found,
    (document_componentSchema? reachable.valid member).trans found⟩

/-- In every state a run reaches, every `$ref` of the paths object and of every stored definition
names a stored component that no longer holds the placeholder, and the document holds that same
definition under `components.schemas`; every parameter whose schema is `{}` is a reference note
naming such a component. -/
theorem reachable_references_resolve {first : UInt32} (reachable : d.Reachable first) :
    (∀ y, (y ∈ d.paths.toJson.refs ∨ ∃ x v, d.registry.get? x = some v ∧ y ∈ v.refs) →
      ∃ v, d.registry.get? y = some v ∧ v ≠ .object [] ∧ d.document.componentSchema? y = some v) ∧
    (∀ e ∈ d.paths, ∀ mo ∈ e.2, ∀ p ∈ mo.2.parameters, p.schema = .object [] →
      ∃ c v, d.registry.get? c = some v ∧ v ≠ .object [] ∧
        ((c = anyTypeName ∧ p.description = some ("reffered to type " ++ anyTypeName)) ∨
          (c ≠ anyTypeName ∧ p.description = some ("reffered to " ++ c)))) := by
  have closed := reachable.closed
  refine ⟨fun y mentioned => reachable.resolves ?_, fun e member mo method p listed empty => ?_⟩
  · rcases mentioned with inPaths | ⟨x, v, found, inDefinition⟩
    · exact PathTable.refs_toJson closed.paths y inPaths
    · exact closed.sealed.closed.refs x v found y inDefinition
  · obtain ⟨c, stored, named⟩ := ((closed.paths e member mo method).parameters p listed).note empty
    obtain ⟨v, found, filled, -⟩ := reachable.resolves stored
    exact ⟨c, v, found, filled, named⟩

/-- A recursive definition used as a body and as a query field: the body points at its component,
which points at itself, and the field becomes a note naming it. -/
theorem references_resolve_recursive_route :
    let node : NodeDoc := { kind := "ref", name := some "Node" }
    let m : Manifest :=
      { definitions := [("Node", { kind := "object", fields := some [("next", node)] })],
        routes := [{ method := .post, path := .literal "/nodes", body := some node,
                     query := some { kind := "object", fields := some [("n", node)] } }] }
    let d := ((Docs.new 1).register m).1
    d.Reachable 1 ∧
    (∀ y, (y ∈ d.paths.toJson.refs ∨ ∃ x v, d.registry.get? x = some v ∧ y ∈ v.refs) →
      ∃ v, d.registry.get? y = some v ∧ v ≠ .object [] ∧ d.document.componentSchema? y = some v) ∧
    (∀ e ∈ d.paths, ∀ mo ∈ e.2, ∀ p ∈ mo.2.parameters, p.schema = .object [] →
      ∃ c v, d.registry.get? c = some v ∧ v ≠ .object [] ∧
        ((c = anyTypeName ∧ p.description = some ("reffered to type " ++ anyTypeName)) ∨
          (c ≠ anyTypeName ∧ p.description = some ("reffered to " ++ c)))) := by
  intro node m d
  have reachable : d.Reachable 1 := .register m (.new _)
  exact ⟨reachable, reachable_references_resolve reachable⟩

/-- The note of an object field names its date fields, so a field named like a note gives a
parameter that reads "reffered to foo: date" while no component of that name exists. -/
theorem note_from_field_name :
    let field : NodeDoc := { kind := "object", fields := some [("reffered to foo", { kind := "date" })] }
    let m : Manifest :=
      { routes := [{ method := .get, path := .literal "/a",
                     query := some { kind := "object", fields := some [("o", field)] } }] }
    let d := ((Docs.new 1).register m).1
    d.Reachable 1 ∧ ∃ e ∈ d.paths, ∃ mo ∈ e.2, ∃ p ∈ mo.2.parameters,
      p.description = some ("reffered to " ++ "foo: date") ∧ "foo: date" ∉ d.registry.schemas.keys := by
  intro field m d
  have lowered : lowerNode [] { kind := "object", fields := some [("o", field)] } =
      .ok (.object [("o", .object [("reffered to foo", .primitive .date)])]) := rfl
  -- run the registration: the one route, its query root and the date field's note
  have registered : d.paths = [("/a", [(.get, { parameters := [⟨.query, "o", true,
      some "reffered to foo: date", .object [("type", .string "object"),
        ("properties", .object [("reffered to foo", .object [("type", .string "string")])]),
        ("required", .array [.string "reffered to foo"])]⟩] })])] ∧ d.registry.schemas = [] := by
    simp [d, m, Docs.register, Manifest.lower, Docs.addRoutes, Docs.addRoute, Docs.addMounts,
      PathDoc.documented, Docs.route, PathTable.record, assemble, optionalParameters, optionalBody,
      parameters, resolveRoot, fieldParameters, convert, convertFields, fieldParameter,
      referencedName?, inlineDescription, PathTable.add, Docs.new, bind, Except.bind, pure,
      Except.pure, Lowered.lower, lowered, Option.mapM, Functor.map, Except.map, primitiveSchema,
      annotated, objectSchema, Registry.new, Json.get?, Fields.get?, Schema.isRequired, typeOnly]
    -- the documented path is the route's own
    decide
  refine ⟨.register m (.new _), ?_⟩
  rw [registered.1, registered.2]
  simp [Fields.keys]

end OpenApiGen
