import OpenApiGen.Docs.Template
import OpenApiGen.Proofs.Json.Fields

/-!
# Where a template's keys end up

Merging a template takes `paths`, then `components`, out by a swap removal and appends them, and
does the same with `schemas` inside `components` (`mergeTemplate_layout`).
-/

namespace OpenApiGen

/-- The keys once `k` is taken out by a swap: the last key moves into the place of the first `k`. -/
def swapOut : List String → String → List String
  | [], _ => []
  | x :: xs, k =>
    if x = k then
      match xs.getLast? with
      | none => []
      | some last => last :: xs.dropLast
    else x :: swapOut xs k

section SwapOut

variable {ks A B E : List String} {k : String}

theorem swapOut_of_not_mem (absent : k ∉ ks) : swapOut ks k = ks := by
  induction ks with
  | nil => rfl
  | cons x xs ih =>
    simp only [List.mem_cons, not_or] at absent
    rw [swapOut, if_neg (Ne.symm absent.1), ih absent.2]

theorem swapOut_append_of_not_mem (absent : k ∉ A) (rest : List String) :
    swapOut (A ++ rest) k = A ++ swapOut rest k := by
  induction A with
  | nil => rfl
  | cons x xs ih =>
    simp only [List.mem_cons, not_or] at absent
    rw [List.cons_append, swapOut, if_neg (Ne.symm absent.1), ih absent.2, List.cons_append]

theorem swapOut_concat_self (absent : k ∉ A) : swapOut (A ++ [k]) k = A := by
  rw [swapOut_append_of_not_mem absent]
  simp [swapOut]

theorem swapOut_middle (absent : k ∉ A) (last : String) :
    swapOut (A ++ k :: (B ++ [last])) k = A ++ last :: B := by
  rw [swapOut_append_of_not_mem absent]
  simp [swapOut]

theorem swapOut_perm (ks : List String) (k : String) : List.Perm (swapOut ks k) (ks.erase k) := by
  induction ks with
  | nil => simp [swapOut]
  | cons x xs ih =>
    by_cases same : x = k
    · subst same
      rw [swapOut, if_pos rfl, List.erase_cons_head]
      -- the rest of the keys, with their last one moved to the front
      rcases List.eq_nil_or_concat xs with rfl | ⟨B, last, rfl⟩
      · simp
      · simpa using (List.perm_append_singleton last B).symm
    · rw [swapOut, if_neg same, List.erase_cons_tail (by simpa using same)]
      exact ih.cons x

theorem layout_of_trailing (others : "paths" ∉ A ∧ "components" ∉ A) {E : List String}
    (trailing : E ∈ [[], ["paths"], ["components"], ["paths", "components"], ["components", "paths"]]) :
    swapOut (swapOut (A ++ E) "paths" ++ ["paths"]) "components" ++ ["components"] =
      A ++ ["paths", "components"] := by
  have tail : swapOut (swapOut E "paths" ++ ["paths"]) "components" ++ ["components"] =
      ["paths", "components"] := by
    simp only [List.mem_cons, List.not_mem_nil, or_false] at trailing
    rcases trailing with rfl | rfl | rfl | rfl | rfl <;> decide
  rw [swapOut_append_of_not_mem others.1, List.append_assoc, swapOut_append_of_not_mem others.2,
    List.append_assoc, tail]

theorem swapOut_trailing (absent : k ∉ A) (last : E ∈ [[], [k]]) :
    swapOut (A ++ E) k ++ [k] = A ++ [k] := by
  simp only [List.mem_cons, List.not_mem_nil, or_false] at last
  rcases last with rfl | rfl
  · rw [List.append_nil, swapOut_of_not_mem absent]
  · rw [swapOut_concat_self absent]

theorem nodup_swapOut (nodup : ks.Nodup) : (swapOut ks k).Nodup :=
  (swapOut_perm ks k).nodup_iff.2 (nodup.erase k)

theorem not_mem_swapOut (nodup : ks.Nodup) : k ∉ swapOut ks k := by
  rw [(swapOut_perm ks k).mem_iff]
  exact nodup.not_mem_erase

end SwapOut

namespace Fields

variable {fs A B : Fields} {k k' : String} {v w : Json}

@[simp] theorem keys_append (A B : Fields) : keys (A ++ B) = keys A ++ keys B := List.map_append

theorem exists_split_first (present : k ∈ fs.keys) :
    ∃ (A : Fields) (v : Json) (rest : Fields), fs = A ++ (k, v) :: rest ∧ k ∉ A.keys := by
  induction fs with
  | nil => simp [keys] at present
  | cons p fs ih =>
    by_cases here : p.1 = k
    · exact ⟨[], p.2, fs, by rw [← here]; rfl, by simp [keys]⟩
    · have later : k ∈ keys fs := by
        simpa [Ne.symm here] using present
      obtain ⟨A, v, rest, rfl, absent⟩ := ih later
      exact ⟨p :: A, v, rest, rfl, by simp [Ne.symm here, absent]⟩

theorem findIdx?_key_append (absent : k ∉ A.keys) (rest : Fields) :
    (A ++ rest).findIdx? (fun p => p.1 == k) =
      (rest.findIdx? (fun p => p.1 == k)).map (· + A.length) := by
  have skipped : A.findIdx? (fun p => p.1 == k) = none := by
    rw [List.findIdx?_eq_none_iff]
    intro p member
    have other : p.1 ≠ k := fun same => absent (same ▸ List.mem_map_of_mem member)
    simpa using other
  rw [List.findIdx?_append, skipped]
  simp

theorem swapRemove_of_not_mem (absent : k ∉ fs.keys) : fs.swapRemove k = (none, fs) := by
  have missing : fs.findIdx? (fun p => p.1 == k) = none := by
    simpa using findIdx?_key_append absent []
  simp [swapRemove, missing]

theorem swapRemove_concat (absent : k ∉ A.keys) : swapRemove (A ++ [(k, v)]) k = (some v, A) := by
  unfold swapRemove
  rw [findIdx?_key_append absent]
  simp

theorem swapRemove_middle {last : String × Json} (absent : k ∉ A.keys) :
    swapRemove (A ++ (k, v) :: (B ++ [last])) k = (some v, A ++ last :: B) := by
  have lastOf : ((k, v) :: (B ++ [last])).getLast? = some last := by
    rw [← List.cons_append, List.getLast?_concat]
  unfold swapRemove
  rw [findIdx?_key_append absent]
  simp [List.findIdx?_cons, List.take_append, lastOf, List.take_of_length_le (Nat.le_add_right _ _)]

theorem swapRemove_cases (fs : Fields) (k : String) :
    (k ∉ fs.keys ∧ fs.swapRemove k = (none, fs)) ∨
    (∃ (A : Fields) (v : Json), k ∉ A.keys ∧ fs = A ++ [(k, v)] ∧ fs.swapRemove k = (some v, A)) ∨
    (∃ (A : Fields) (v : Json) (B : Fields) (last : String × Json),
      k ∉ A.keys ∧ fs = A ++ (k, v) :: (B ++ [last]) ∧
      fs.swapRemove k = (some v, A ++ last :: B)) := by
  by_cases present : k ∈ fs.keys
  · obtain ⟨A, v, rest, rfl, absent⟩ := exists_split_first present
    rcases List.eq_nil_or_concat rest with rfl | ⟨B, last, rfl⟩
    · exact .inr (.inl ⟨A, v, absent, rfl, swapRemove_concat absent⟩)
    · rw [List.concat_eq_append]
      exact .inr (.inr ⟨A, v, B, last, absent, rfl, swapRemove_middle absent⟩)
  · exact .inl ⟨present, swapRemove_of_not_mem present⟩

theorem swapRemove_fst (fs : Fields) (k : String) : (fs.swapRemove k).1 = fs.get? k := by
  rcases swapRemove_cases fs k with ⟨absent, removed⟩ | ⟨A, v, absent, rfl, removed⟩ |
      ⟨A, v, B, last, absent, rfl, removed⟩
  · rw [removed, (get?_eq_none_iff.2 absent)]
  · rw [removed, get?_append_of_not_mem absent]
    simp [get?]
  · rw [removed, get?_append_of_not_mem absent]
    simp [get?]

theorem keys_swapRemove (fs : Fields) (k : String) : (fs.swapRemove k).2.keys = swapOut fs.keys k := by
  rcases swapRemove_cases fs k with ⟨absent, removed⟩ | ⟨A, v, absent, rfl, removed⟩ |
      ⟨A, v, B, last, absent, rfl, removed⟩
  · rw [removed, swapOut_of_not_mem absent]
  · rw [removed]
    simpa [keys] using (swapOut_concat_self absent).symm
  · rw [removed]
    simpa [keys] using (swapOut_middle absent last.1).symm

theorem get?_concat_of_ne (other : k' ≠ k) (v : Json) : get? (fs ++ [(k, v)]) k' = fs.get? k' := by
  by_cases present : k' ∈ fs.keys
  · rw [get?_append_of_mem present]
  · rw [get?_append_of_not_mem present, get?_eq_none_iff.2 present]
    simp [get?, Ne.symm other]

theorem get?_rotate {last : String × Json} (nodup : (B ++ [last]).keys.Nodup) (k' : String) :
    get? (last :: B) k' = get? (B ++ [last]) k' := by
  have absent : last.1 ∉ B.keys := by
    rw [keys_append, List.nodup_append] at nodup
    exact fun inB => nodup.2.2 last.1 inB last.1 (by simp) rfl
  obtain ⟨key, value⟩ := last
  rw [get?_cons]
  by_cases here : key = k'
  · subst here
    rw [if_pos rfl, get?_append_of_not_mem absent]
    simp [get?]
  · rw [if_neg here, get?_concat_of_ne (Ne.symm here)]

theorem get?_swapRemove (nodup : fs.keys.Nodup) (other : k' ≠ k) :
    (fs.swapRemove k).2.get? k' = fs.get? k' := by
  rcases swapRemove_cases fs k with ⟨absent, removed⟩ | ⟨A, v, absent, rfl, removed⟩ |
      ⟨A, v, B, last, absent, rfl, removed⟩
  · rw [removed]
  · rw [removed, get?_concat_of_ne other]
  · rw [removed]
    by_cases inA : k' ∈ A.keys
    · rw [get?_append_of_mem inA, get?_append_of_mem inA]
    · have tail : (B ++ [last]).keys.Nodup := by
        rw [keys_append, keys_cons, List.nodup_append, List.nodup_cons] at nodup
        exact nodup.2.1.2
      have skip : get? ((k, v) :: (B ++ [last])) k' = get? (B ++ [last]) k' := by
        rw [get?_cons, if_neg (Ne.symm other)]
      rw [get?_append_of_not_mem inA, get?_append_of_not_mem inA, skip]
      exact get?_rotate tail k'

theorem insert_of_not_mem (absent : k ∉ fs.keys) (v : Json) : fs.insert k v = fs ++ [(k, v)] := by
  have missing : fs.contains k = false := Bool.eq_false_iff.2 (fun found => absent (contains_iff.1 found))
  simp [insert, missing]

theorem swapRemove_insert (nodup : fs.keys.Nodup) (k : String) (w : Json) :
    let out := (fs.swapRemove k).2.insert k w
    out = (fs.swapRemove k).2 ++ [(k, w)] ∧ out.keys = swapOut fs.keys k ++ [k] ∧ out.keys.Nodup ∧
      out.get? k = some w ∧ ∀ k', k' ≠ k → out.get? k' = fs.get? k' := by
  have gone : k ∉ (fs.swapRemove k).2.keys := by
    rw [keys_swapRemove]
    exact not_mem_swapOut nodup
  have appended := insert_of_not_mem gone w
  refine ⟨appended, ?keys, ?nodup, ?self, ?others⟩
  case keys =>
    rw [appended, keys_append, keys_swapRemove]
    rfl
  case nodup =>
    rw [appended, keys_append, keys_swapRemove]
    exact (nodup_swapOut nodup).append (List.nodup_singleton k)
      (List.disjoint_singleton.2 (not_mem_swapOut nodup))
  case self =>
    rw [appended, get?_append_of_not_mem gone]
    simp [get?]
  case others =>
    intro k' other
    rw [appended, get?_concat_of_ne other, get?_swapRemove nodup other]

theorem keys_extend (distinct : fs.keys.Nodup) (more : Fields) :
    (fs.extend more).keys = (fs.keys ++ more.keys).eraseDups := by
  induction more generalizing fs with
  | nil =>
    show fs.keys = (fs.keys ++ []).eraseDups
    rw [List.append_nil, eraseDups_of_nodup distinct]
  | cons p more ih =>
    have inserted : (fs.insert p.1 p.2).keys = (fs.keys ++ [p.1]).eraseDups := by
      rw [keys_insert, eraseDups_concat, eraseDups_of_nodup distinct]
    simp only [extend, List.foldl_cons] at ih ⊢
    rw [ih (nodup_keys_insert distinct), inserted, eraseDups_eraseDups_append]
    simp

/-- The object stored under `key`, empty when absent or not an object. -/
def objectAt (fs : Fields) (key : String) : Fields :=
  match fs.get? key with
  | some (.object inner) => inner
  | _ => []

theorem objectAt_of_get?_eq {gs : Fields} (same : fs.get? k = gs.get? k) : fs.objectAt k = gs.objectAt k := by
  unfold objectAt
  rw [same]

end Fields

/-- The fields a template brings: an object's own, none for any other value. -/
def templateFields : Json → Fields
  | .object fs => fs
  | _ => []

theorem takeObject_eq (fs : Fields) (key : String) :
    takeObject fs key = (fs.objectAt key, (fs.swapRemove key).2) := by
  unfold takeObject Fields.objectAt
  rw [← Fields.swapRemove_fst]
  generalize fs.swapRemove key = taken
  obtain ⟨found, rest⟩ := taken
  rcases found with _ | ⟨_ | _ | _ | _ | _ | _⟩ <;> rfl

theorem mergeTemplate_eq (T : Json) (P S : Fields) :
    let fs := templateFields T
    let doc := (fs.swapRemove "paths").2.insert "paths" (.object ((fs.objectAt "paths").extend P))
    let cs := doc.objectAt "components"
    mergeTemplate T P S = .object ((doc.swapRemove "components").2.insert "components"
      (.object ((cs.swapRemove "schemas").2.insert "schemas"
        (.object ((cs.objectAt "schemas").extend S))))) := by
  cases T <;> simp only [mergeTemplate, templateFields, takeObject_eq]

/-- The layout of a merged document, for every template with distinct keys (and distinct keys in
its `components`): `paths` goes last, then `components` is taken out by a swap and goes last; the
other keys keep their values and stand where the two swaps leave them. `paths` is the template's
paths extended by the generated ones, and `components` is laid out the same way around `schemas`. -/
theorem mergeTemplate_layout (T : Json) (P S : Fields) (distinct : (templateFields T).keys.Nodup)
    (componentsDistinct : ((templateFields T).objectAt "components").keys.Nodup) :
    let fs := templateFields T
    let cs := fs.objectAt "components"
    ∃ doc components : Fields, mergeTemplate T P S = .object doc ∧
      doc.keys = swapOut (swapOut fs.keys "paths" ++ ["paths"]) "components" ++ ["components"] ∧
      (∀ k, k ≠ "paths" → k ≠ "components" → doc.get? k = fs.get? k) ∧
      doc.get? "paths" = some (.object ((fs.objectAt "paths").extend P)) ∧
      doc.get? "components" = some (.object components) ∧
      components.keys = swapOut cs.keys "schemas" ++ ["schemas"] ∧
      (∀ k, k ≠ "schemas" → components.get? k = cs.get? k) ∧
      components.get? "schemas" = some (.object ((cs.objectAt "schemas").extend S)) := by
  intro fs cs
  have distinctFs : fs.keys.Nodup := distinct
  have distinctCs : cs.keys.Nodup := componentsDistinct
  obtain ⟨-, keys1, distinct1, paths1, others1⟩ :=
    Fields.swapRemove_insert distinctFs "paths" (.object ((fs.objectAt "paths").extend P))
  -- Putting `paths` back leaves the template's `components` untouched.
  have sameComponents : Fields.objectAt ((fs.swapRemove "paths").2.insert "paths"
      (.object ((fs.objectAt "paths").extend P))) "components" = cs :=
    Fields.objectAt_of_get?_eq (others1 "components" (by decide))
  obtain ⟨-, keysC, -, schemasC, othersC⟩ :=
    Fields.swapRemove_insert distinctCs "schemas" (.object ((cs.objectAt "schemas").extend S))
  obtain ⟨-, keys2, -, components2, others2⟩ := Fields.swapRemove_insert distinct1 "components"
    (.object ((cs.swapRemove "schemas").2.insert "schemas" (.object ((cs.objectAt "schemas").extend S))))
  refine ⟨_, _, by rw [mergeTemplate_eq, sameComponents], ?keys, ?others, ?paths, components2,
    by rw [keysC], othersC, schemasC⟩
  case keys => rw [keys2, keys1]
  case others =>
    intro k notPaths notComponents
    rw [others2 k notComponents, others1 k notPaths]
  case paths => rw [others2 "paths" (by decide), paths1]

theorem mergeTemplate_keys_of_trailing (T : Json) (P S : Fields) {A E C F : List String}
    (keys : (templateFields T).keys = A ++ E) (distinct : (A ++ E).Nodup)
    (others : "paths" ∉ A ∧ "components" ∉ A)
    (trailing : E ∈ [[], ["paths"], ["components"], ["paths", "components"], ["components", "paths"]])
    (componentKeys : ((templateFields T).objectAt "components").keys = C ++ F)
    (componentsDistinct : (C ++ F).Nodup) (otherComponents : "schemas" ∉ C)
    (schemasLast : F ∈ [[], ["schemas"]]) :
    ∃ doc components : Fields, mergeTemplate T P S = .object doc ∧
      doc.keys = A ++ ["paths", "components"] ∧ doc.get? "components" = some (.object components) ∧
      components.keys = C ++ ["schemas"] := by
  have distinctFs : (templateFields T).keys.Nodup := by rw [keys]; exact distinct
  have distinctCs : ((templateFields T).objectAt "components").keys.Nodup := by
    rw [componentKeys]; exact componentsDistinct
  obtain ⟨doc, components, merged, docKeys, -, -, stored, componentsKeys, -, -⟩ :=
    mergeTemplate_layout T P S distinctFs distinctCs
  refine ⟨doc, components, merged, ?outer, stored, ?inner⟩
  case outer => rw [docKeys, keys, layout_of_trailing others trailing]
  case inner => rw [componentsKeys, componentKeys, swapOut_trailing otherComponents schemasLast]

/-- A template with `components` first and `paths` last: taking `components` out moves `paths`
into its place, ahead of `a`, and inside `components` the last key `y` takes the place of
`schemas`, ahead of `x`. -/
theorem template_keys_swapped :
    mergeTemplate (.object [("components", .object [("schemas", .object []),
        ("x", .number (.unsigned 1)), ("y", .number (.unsigned 2))]),
      ("a", .number (.unsigned 1)), ("paths", .object [])]) [] [] =
      .object [("paths", .object []), ("a", .number (.unsigned 1)),
        ("components", .object [("y", .number (.unsigned 2)), ("x", .number (.unsigned 1)),
          ("schemas", .object [])])] := by
  rfl

theorem template_layout_swapped :
    let T : Json := .object [("components", .object [("schemas", .object []),
        ("x", .number (.unsigned 1)), ("y", .number (.unsigned 2))]),
      ("a", .number (.unsigned 1)), ("paths", .object [])]
    let P : Fields := [("/a", .object [])]
    let S : Fields := [("type1", .object [])]
    let fs := templateFields T
    let cs := fs.objectAt "components"
    fs.keys.Nodup ∧ cs.keys.Nodup ∧
      ∃ doc components : Fields, mergeTemplate T P S = .object doc ∧
        doc.keys = swapOut (swapOut fs.keys "paths" ++ ["paths"]) "components" ++ ["components"] ∧
        (∀ k, k ≠ "paths" → k ≠ "components" → doc.get? k = fs.get? k) ∧
        doc.get? "paths" = some (.object ((fs.objectAt "paths").extend P)) ∧
        doc.get? "components" = some (.object components) ∧
        components.keys = swapOut cs.keys "schemas" ++ ["schemas"] ∧
        (∀ k, k ≠ "schemas" → components.get? k = cs.get? k) ∧
        components.get? "schemas" = some (.object ((cs.objectAt "schemas").extend S)) := by
  intro T P S fs cs
  have distinct : fs.keys.Nodup := by decide
  have componentsDistinct : cs.keys.Nodup := by decide
  exact ⟨distinct, componentsDistinct, mergeTemplate_layout T P S distinct componentsDistinct⟩

end OpenApiGen
