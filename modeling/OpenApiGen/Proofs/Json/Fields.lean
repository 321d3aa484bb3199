import Mathlib.Data.List.Nodup
import OpenApiGen.Json.Value

/-!
# Ordered fields

Keys and look-ups after `Fields.insert` and `Fields.extend`.
-/

namespace OpenApiGen.Fields

variable {fs more : Fields} {k k' : String} {v : Json}

@[simp] theorem keys_cons (p : String × Json) (fs : Fields) : keys (p :: fs) = p.1 :: keys fs := rfl

@[simp] theorem get?_nil : Fields.get? [] k = none := rfl

theorem get?_cons (p : String × Json) (fs : Fields) (k : String) :
    get? (p :: fs) k = if p.1 = k then some p.2 else get? fs k := by
  by_cases h : p.1 = k <;> simp [get?, h]

theorem contains_iff : fs.contains k = true ↔ k ∈ fs.keys := by
  simp only [contains, List.any_eq_true, beq_iff_eq, keys, List.mem_map]

theorem get?_isSome_iff : (fs.get? k).isSome ↔ k ∈ fs.keys := by
  induction fs with
  | nil => simp [keys]
  | cons p fs ih =>
    rw [get?_cons]
    by_cases h : p.1 = k <;> simp [h, ih]
    grind

theorem get?_replace (fs : Fields) (k k' : String) (v : Json) :
    get? (fs.map (fun p => if p.1 = k then (k, v) else p)) k' =
      if k' = k ∧ k ∈ fs.keys then some v else get? fs k' := by
  induction fs with
  | nil => simp [keys]
  | cons p fs ih =>
    by_cases hk : k' = k
    · subst hk
      by_cases hp : p.1 = k'
      · simp [get?_cons, hp]
      · have hp' : k' ≠ p.1 := fun e => hp e.symm
        simp [get?_cons, hp, hp', ih]
    · have hk' : k ≠ k' := fun e => hk e.symm
      by_cases hp : p.1 = k <;> simp [get?_cons, hp, hk, hk', ih]

theorem get?_append_of_not_mem (h : k ∉ fs.keys) (rest : Fields) :
    get? (fs ++ rest) k = get? rest k := by
  induction fs with
  | nil => rfl
  | cons p fs ih =>
    simp only [keys_cons, List.mem_cons, not_or] at h
    rw [List.cons_append, get?_cons, if_neg (Ne.symm h.1), ih h.2]

theorem get?_append_of_mem (h : k ∈ fs.keys) (rest : Fields) :
    get? (fs ++ rest) k = get? fs k := by
  induction fs with
  | nil => simp [keys] at h
  | cons p fs ih =>
    rw [List.cons_append, get?_cons, get?_cons]
    by_cases hp : p.1 = k
    · simp [hp]
    · simp only [hp, if_false]
      exact ih ((List.mem_cons.1 h).resolve_left (fun e => hp e.symm))

theorem get?_eq_none_iff : fs.get? k = none ↔ k ∉ fs.keys := by
  rw [← get?_isSome_iff, Option.not_isSome_iff_eq_none]

theorem get?_insert : (fs.insert k v).get? k' = if k' = k then some v else fs.get? k' := by
  unfold insert
  split
  · next present =>
    simp only [beq_iff_eq]
    rw [get?_replace]
    have member := contains_iff.1 present
    by_cases hk : k' = k <;> simp [hk, member]
  · next absent =>
    have hk : k ∉ fs.keys := fun member => absent (contains_iff.2 member)
    by_cases h : k' = k
    · subst h
      rw [get?_append_of_not_mem hk]
      simp [get?_cons]
    · rw [if_neg h]
      by_cases present : k' ∈ fs.keys
      · exact get?_append_of_mem present _
      · rw [get?_append_of_not_mem present, get?_eq_none_iff.2 present]
        simp [get?_cons, Ne.symm h]

@[simp] theorem get?_insert_self : (fs.insert k v).get? k = some v := by
  simp [get?_insert]

theorem get?_insert_of_ne (h : k' ≠ k) : (fs.insert k v).get? k' = fs.get? k' := by
  simp [get?_insert, h]

theorem mem_keys_of_get? (h : fs.get? k = some v) : k ∈ fs.keys :=
  get?_isSome_iff.1 (by simp [h])

theorem keys_replace (fs : Fields) (k : String) (v : Json) :
    keys (fs.map (fun p => if p.1 = k then (k, v) else p)) = fs.keys := by
  induction fs with
  | nil => rfl
  | cons p fs ih => by_cases hp : p.1 = k <;> simp [hp, ih]

theorem keys_insert : (fs.insert k v).keys = if k ∈ fs.keys then fs.keys else fs.keys ++ [k] := by
  unfold insert
  split
  · next present =>
    simp only [beq_iff_eq]
    rw [keys_replace, if_pos (contains_iff.1 present)]
  · next absent =>
    rw [if_neg (fun member => absent (contains_iff.2 member))]
    simp [keys]

@[simp] theorem mem_keys_insert : k' ∈ (fs.insert k v).keys ↔ k' = k ∨ k' ∈ fs.keys := by
  rw [keys_insert]
  split
  · next present => constructor <;> grind
  · simp [or_comm]

theorem nodup_keys_insert (h : fs.keys.Nodup) : (fs.insert k v).keys.Nodup := by
  rw [keys_insert]
  split
  · exact h
  · next absent => exact h.append (List.nodup_singleton k) (by simpa using absent)

theorem keys_sub_keys_extend (fs more : Fields) : fs.keys ⊆ (fs.extend more).keys := by
  induction more generalizing fs with
  | nil => exact List.Subset.refl _
  | cons p more ih =>
    intro x member
    exact ih (fs.insert p.1 p.2) (mem_keys_insert.2 (Or.inr member))

theorem get?_extend_of_not_mem (absent : k ∉ more.keys) (fs : Fields) :
    (fs.extend more).get? k = fs.get? k := by
  induction more generalizing fs with
  | nil => rfl
  | cons p more ih =>
    simp only [keys_cons, List.mem_cons, not_or] at absent
    simp only [extend, List.foldl_cons] at ih ⊢
    rw [ih absent.2, get?_insert_of_ne absent.1]

theorem get?_extend (unique : more.keys.Nodup) (member : k ∈ more.keys) (fs : Fields) :
    (fs.extend more).get? k = more.get? k := by
  induction more generalizing fs with
  | nil => simp [keys] at member
  | cons p more ih =>
    simp only [keys_cons, List.nodup_cons] at unique
    simp only [extend, List.foldl_cons] at ih ⊢
    rw [get?_cons]
    by_cases h : p.1 = k
    · subst h
      rw [if_pos rfl]
      have frame := get?_extend_of_not_mem unique.1 (fs.insert p.1 p.2)
      simp only [extend] at frame
      rw [frame, get?_insert_self]
    · rw [if_neg h]
      exact ih unique.2 ((List.mem_cons.1 member).resolve_left (fun e => h e.symm)) _

end OpenApiGen.Fields

namespace OpenApiGen

/-! ## Key lists without repeats

`List.eraseDups` keeps the first occurrence of each element: inserting keys one by one into an
ordered map gives the key list of the whole sequence with its repeats erased. -/

variable {α : Type} [BEq α] [LawfulBEq α]

theorem eraseDups_concat (xs : List α) (a : α) :
    (xs ++ [a]).eraseDups = if a ∈ xs then xs.eraseDups else xs.eraseDups ++ [a] := by
  rw [List.eraseDups_append]
  by_cases h : a ∈ xs
  · have gone : [a].removeAll xs = [] := by simp [List.removeAll, h]
    simp [h, gone]
  · have kept : [a].removeAll xs = [a] := by simp [List.removeAll, h]
    simp [h, kept, List.eraseDups_cons]

theorem eraseDups_of_nodup {xs : List α} (h : xs.Nodup) : xs.eraseDups = xs := by
  induction xs with
  | nil => rfl
  | cons a as ih =>
    rw [List.nodup_cons] at h
    have kept : as.filter (fun b => !b == a) = as :=
      List.filter_eq_self.2 (fun b member => by
        have : b ≠ a := fun same => h.1 (same ▸ member)
        simpa using this)
    rw [List.eraseDups_cons, kept, ih h.2]

theorem nodup_eraseDups : ∀ xs : List α, xs.eraseDups.Nodup
  | [] => List.nodup_nil
  | a :: as => by
    rw [List.eraseDups_cons, List.nodup_cons]
    -- the tail is the rest without `a`, its repeats erased
    refine ⟨fun member => ?_, nodup_eraseDups _⟩
    simp [List.mem_eraseDups] at member
termination_by xs => xs.length
decreasing_by exact Nat.lt_succ_of_le (List.length_filter_le _ _)

theorem eraseDups_eraseDups_append (xs ys : List α) :
    (xs.eraseDups ++ ys).eraseDups = (xs ++ ys).eraseDups := by
  have sameOut : ys.removeAll xs.eraseDups = ys.removeAll xs := by
    simp [List.removeAll, List.mem_eraseDups]
  rw [List.eraseDups_append, List.eraseDups_append, eraseDups_of_nodup (nodup_eraseDups xs), sameOut]

end OpenApiGen
