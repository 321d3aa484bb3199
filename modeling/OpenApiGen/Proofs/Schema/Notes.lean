import OpenApiGen.Proofs.Schema.Convert

/-!
# What the category of a conversion changes

Categories differ only in the notes of bigint and date fragments, so with the notes taken out
every conversion is the params conversion (`category_changes_only_notes`).
-/

namespace OpenApiGen

namespace Json

mutual
/-- The value with every `description` member that holds a string taken out. A conversion writes
such a member only as the note of a bigint or date: the properties of an object hold fragments,
which are objects. -/
def dropNotes : Json → Json
  | .array items => .array (dropNotesAll items)
  | .object fs => .object (dropNotesFields fs)
  | v => v

def dropNotesAll : List Json → List Json
  | [] => []
  | v :: rest => dropNotes v :: dropNotesAll rest

def dropNotesFields : Fields → Fields
  | [] => []
  | (k, v) :: rest =>
    if k = "description" ∧ v.str?.isSome then dropNotesFields rest
    else (k, dropNotes v) :: dropNotesFields rest
end

@[simp] theorem dropNotes_string (s : String) : (Json.string s).dropNotes = .string s := by
  simp [dropNotes]

@[simp] theorem dropNotes_array (items : List Json) :
    (Json.array items).dropNotes = .array (dropNotesAll items) := by
  simp [dropNotes]

@[simp] theorem dropNotes_object (fs : Fields) : (Json.object fs).dropNotes = .object (dropNotesFields fs) := by
  simp [dropNotes]

@[simp] theorem dropNotesAll_nil : dropNotesAll [] = [] := by simp [dropNotesAll]

@[simp] theorem dropNotesAll_cons (v : Json) (rest : List Json) :
    dropNotesAll (v :: rest) = v.dropNotes :: dropNotesAll rest := by
  simp [dropNotesAll]

@[simp] theorem dropNotesAll_map_string (ss : List String) :
    dropNotesAll (ss.map Json.string) = ss.map Json.string := by
  induction ss with
  | nil => rfl
  | cons s rest ih => simp [ih]

@[simp] theorem dropNotesFields_nil : dropNotesFields [] = [] := by simp [dropNotesFields]

theorem dropNotesFields_cons (k : String) (v : Json) (rest : Fields) :
    dropNotesFields ((k, v) :: rest) =
      if k = "description" ∧ v.str?.isSome then dropNotesFields rest
      else (k, v.dropNotes) :: dropNotesFields rest := by
  simp [dropNotesFields]

@[simp] theorem dropNotesFields_cons_object (k : String) (fs rest : Fields) :
    dropNotesFields ((k, .object fs) :: rest) = (k, .object (dropNotesFields fs)) :: dropNotesFields rest := by
  simp [dropNotesFields_cons, str?]

@[simp] theorem dropNotesFields_cons_of_ne {k : String} (v : Json) (rest : Fields) (h : k ≠ "description") :
    dropNotesFields ((k, v) :: rest) = (k, v.dropNotes) :: dropNotesFields rest := by
  simp [dropNotesFields_cons, h]

end Json

theorem Fields.map_insert (f : Json → Json) (fs : Fields) (k : String) (v : Json) :
    (Fields.insert fs k v).map (fun p => (p.1, f p.2)) =
      Fields.insert (fs.map (fun p => (p.1, f p.2))) k (f v) := by
  have contains : Fields.contains (fs.map (fun p => (p.1, f p.2))) k = Fields.contains fs k := by
    simp [Fields.contains, Function.comp_def]
  unfold Fields.insert
  rw [contains]
  split
  · simp only [List.map_map]
    congr 1
    funext p
    by_cases h : p.1 = k <;> simp [h]
  · simp

namespace Registry

/-- The registry with the notes taken out of every definition. -/
def dropNotes (r : Registry) : Registry :=
  { r with schemas := r.schemas.map (fun p => (p.1, p.2.dropNotes)) }

variable {r : Registry} {key : Option ComponentKey} {name : String} {d : Json}

@[simp] theorem dropNotes_first : r.dropNotes.first = r.first := rfl

@[simp] theorem dropNotes_next : r.dropNotes.next = r.next := rfl

@[simp] theorem dropNotes_memo : r.dropNotes.memo = r.memo := rfl

@[simp] theorem keys_dropNotes : r.dropNotes.schemas.keys = r.schemas.keys := by
  simp [dropNotes, Fields.keys, Function.comp_def]

@[simp] theorem lookup_dropNotes (k : ComponentKey) : r.dropNotes.lookup k = r.lookup k := rfl

theorem dropNotes_register :
    (r.register key name d).dropNotes = r.dropNotes.register key name d.dropNotes := by
  simp only [dropNotes, register, Fields.map_insert]

theorem reserve_dropNotes : r.dropNotes.reserve key = Prod.map id dropNotes <$> r.reserve key := by
  unfold reserve allocate
  by_cases full : r.next = 4294967295
  · simp [full]
  · simp [full, dropNotes_register]
    rfl

theorem anyType_dropNotes : r.dropNotes.anyType = Prod.map id dropNotes r.anyType := by
  rw [anyType_eq, anyType_eq, lookup_dropNotes]
  split
  · simp only [Prod.map, id, dropNotes_register]
    rfl
  · rfl

end Registry

open Registry

variable {c : Category} {o : Bodies} {r : Registry}

@[simp] theorem dropNotes_reference (name : String) : (reference name).dropNotes = reference name := by
  simp [reference]

@[simp] theorem dropNotes_typeOnly (k : String) : (typeOnly k).dropNotes = typeOnly k := by
  simp [typeOnly]

@[simp] theorem annotated_params (ty note : String) : annotated .params ty note = typeOnly ty := rfl

theorem dropNotes_annotated (ty note : String) : (annotated c ty note).dropNotes = typeOnly ty := by
  cases c <;> simp [annotated, Json.dropNotesFields_cons, Json.str?, typeOnly]

theorem dropNotes_literal (l : Literal) : l.toJson.dropNotes = l.toJson := by
  cases l with
  | bool b => rfl
  | number x =>
    simp only [Literal.toJson, numberJson]
    split
    · split <;> (try split) <;> rfl
    · rfl
  | text s => rfl

@[simp] theorem dropNotesAll_map_literal (vals : List Literal) :
    Json.dropNotesAll (vals.map Literal.toJson) = vals.map Literal.toJson := by
  induction vals with
  | nil => rfl
  | cons l rest ih => simp [dropNotes_literal, ih]

theorem dropNotes_objectSchema (props : Fields) (req : List String) :
    (objectSchema props req).dropNotes = objectSchema (Json.dropNotesFields props) req := by
  simp [objectSchema]

theorem primitiveSchema_dropNotes (p : Primitive) :
    primitiveSchema .params p r.dropNotes = Prod.map Json.dropNotes dropNotes (primitiveSchema c p r) := by
  have anyType : r.dropNotes.anyType = Prod.map Json.dropNotes dropNotes r.anyType := by
    rw [anyType_dropNotes, anyType_eq]
    simp [Prod.map]
  cases p <;> simp [primitiveSchema, dropNotes_annotated, anyType]

/-! ## A conversion in any category, notes taken out -/

theorem convert_dropNotes_all :
    (∀ o n r, Prod.map Json.dropNotes dropNotes <$> convert c o n r = convert .params o n r.dropNotes) ∧
    (∀ o ns r, Prod.map Json.dropNotesAll dropNotes <$> convertAll c o ns r =
      convertAll .params o ns r.dropNotes) ∧
    (∀ o fs r, Prod.map Json.dropNotesFields (Prod.map id dropNotes) <$> convertFields c o fs r =
      convertFields .params o fs r.dropNotes) := by
  refine convert.mutual_induct
    (fun o n r => Prod.map Json.dropNotes dropNotes <$> convert c o n r = convert .params o n r.dropNotes)
    (fun o ns r => Prod.map Json.dropNotesAll dropNotes <$> convertAll c o ns r =
      convertAll .params o ns r.dropNotes)
    (fun o fs r => Prod.map Json.dropNotesFields (Prod.map id dropNotes) <$> convertFields c o fs r =
      convertFields .params o fs r.dropNotes)
    ?primitive ?object ?array ?tuple ?union ?enum ?record ?hit ?miss ?other ?allNil ?allCons
    ?fieldsNil ?fieldsCons
  case primitive =>
    intro o p r
    simp [primitiveSchema_dropNotes (c := c)]
  case object =>
    intro o fs r fields
    rw [convert, convert, ← fields]
    cases convertFields c o fs r with
    | error e => rfl
    | ok x =>
      obtain ⟨props, req, r'⟩ := x
      simp [dropNotes_objectSchema]
  case array =>
    intro o el r element
    rw [convert, convert, ← element]
    cases convert c o el r with
    | error e => rfl
    | ok x =>
      obtain ⟨items, r'⟩ := x
      simp
  case tuple =>
    intro o els r elements
    rw [convert, convert, reserve_dropNotes]
    cases r.reserve none with
    | error e => rfl
    | ok x =>
      obtain ⟨name, r1⟩ := x
      simp only [Functor.map, Except.map, bind, Except.bind, Prod.map, id]
      rw [← elements r1]
      cases convertAll c o els r1 with
      | error e => rfl
      | ok y =>
        obtain ⟨items, r2⟩ := y
        simp [pure, Except.pure, dropNotes_register]
  case union =>
    intro o opts r options
    rw [convert, convert, reserve_dropNotes]
    cases r.reserve none with
    | error e => rfl
    | ok x =>
      obtain ⟨name, r1⟩ := x
      simp only [Functor.map, Except.map, bind, Except.bind, Prod.map, id]
      rw [← options r1]
      cases convertAll c o opts r1 with
      | error e => rfl
      | ok y =>
        obtain ⟨items, r2⟩ := y
        simp [pure, Except.pure, dropNotes_register]
  case enum =>
    intro o vals r
    simp
  case record =>
    intro o n r inner
    simpa using inner
  case hit =>
    intro o i r name found
    rw [convert, convert, lookup_dropNotes, found]
    rfl
  case miss =>
    intro o i r missing body
    have missing' : r.dropNotes.lookup (.definition i) = none := missing
    rw [convert_ref_unremembered missing, convert_ref_unremembered missing', reserve_dropNotes]
    cases r.reserve (some (.definition i)) with
    | error e => rfl
    | ok x =>
      obtain ⟨name, r1⟩ := x
      cases taken : o.take? i with
      | none => simp [Except.bind, Functor.map, Except.map, dropNotes_register]
      | some entry =>
        obtain ⟨b, rest⟩ := entry
        simp only [Except.bind, Functor.map, Except.map, Prod.map, id]
        rw [← body r1 b rest taken]
        cases convert c rest b r1 with
        | error e => rfl
        | ok y => simp [Functor.map, Except.map, dropNotes_register]
  case other =>
    intro o k r
    simp
  case allNil =>
    intro o r
    simp [convertAll]
  case allCons =>
    intro o n rest r head tail
    rw [convertAll, convertAll, ← head]
    cases convert c o n r with
    | error e => rfl
    | ok x =>
      obtain ⟨j, r1⟩ := x
      simp only [Functor.map, Except.map, bind, Except.bind, Prod.map]
      rw [← tail r1]
      cases convertAll c o rest r1 with
      | error e => rfl
      | ok y => simp [pure, Except.pure]
  case fieldsNil =>
    intro o r
    simp [convertFields]
  case fieldsCons =>
    intro o k n rest r head tail
    rw [convertFields, convertFields, ← head]
    cases converted : convert c o n r with
    | error e => rfl
    | ok x =>
      obtain ⟨j, r1⟩ := x
      -- the property is a fragment, an object, so no note is taken out in its place
      obtain ⟨f, fs, rfl⟩ := convert_nonempty n converted
      simp only [Functor.map, Except.map, bind, Except.bind, Prod.map, id]
      rw [← tail r1]
      cases convertFields c o rest r1 with
      | error e => rfl
      | ok y => simp [pure, Except.pure]

/-! ## Categories that annotate alike convert alike -/

theorem convert_congr_category {c c' : Category} (same : annotated c = annotated c') :
    (∀ o n r, convert c o n r = convert c' o n r) ∧
    (∀ o ns r, convertAll c o ns r = convertAll c' o ns r) ∧
    (∀ o fs r, convertFields c o fs r = convertFields c' o fs r) := by
  refine convert.mutual_induct
    (fun o n r => convert c o n r = convert c' o n r)
    (fun o ns r => convertAll c o ns r = convertAll c' o ns r)
    (fun o fs r => convertFields c o fs r = convertFields c' o fs r)
    ?primitive ?object ?array ?tuple ?union ?enum ?record ?hit ?miss ?other ?allNil ?allCons
    ?fieldsNil ?fieldsCons
  case primitive =>
    intro o p r
    cases p <;> simp [primitiveSchema, same]
  case object =>
    intro o fs r fields
    rw [convert, convert, fields]
  case array =>
    intro o el r element
    rw [convert, convert, element]
  case tuple =>
    intro o els r elements
    simp only [convert, elements]
  case union =>
    intro o opts r options
    simp only [convert, options]
  case enum => intro o vals r; simp
  case record => intro o n r inner; simpa using inner
  case hit =>
    intro o i r name found
    rw [convert, convert, found]
  case miss =>
    intro o i r missing body
    rw [convert_ref_unremembered missing, convert_ref_unremembered missing]
    cases r.reserve (some (.definition i)) with
    | error e => rfl
    | ok x =>
      cases taken : o.take? i with
      | none => rfl
      | some entry => simp only [Except.bind, body x.2 entry.1 entry.2 taken]
  case other => intro o k r; simp
  case allNil => intro o r; simp [convertAll]
  case allCons =>
    intro o n rest r head tail
    simp only [convertAll, head, tail]
  case fieldsNil => intro o r; simp [convertFields]
  case fieldsCons =>
    intro o k n rest r head tail
    simp only [convertFields, head, tail]

/-- Params and query convert alike; a body conversion differs from them only by its notes: with
the notes taken out it is the params conversion of the registry without notes, as the params
conversion itself is. So the three reserve the same names in the same order and end with the
same counter, memo and schema keys. -/
theorem category_changes_only_notes (o : Bodies) (n : Schema) (r : Registry) :
    convert .query o n r = convert .params o n r ∧
    Prod.map Json.dropNotes dropNotes <$> convert .body o n r = convert .params o n r.dropNotes ∧
    Prod.map Json.dropNotes dropNotes <$> convert .params o n r = convert .params o n r.dropNotes :=
  ⟨(@convert_congr_category .query .params (by funext ty note; rfl)).1 o n r,
    convert_dropNotes_all.1 o n r, convert_dropNotes_all.1 o n r⟩

end OpenApiGen
