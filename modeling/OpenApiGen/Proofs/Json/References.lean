import OpenApiGen.Component.Registry
import OpenApiGen.Schema.Node
import OpenApiGen.Proofs.Json.Fields

/-!
# Component references inside a value

`Json.refs v`: the components the `$ref` fragments inside `v` point at, in document order.
-/

namespace OpenApiGen

namespace Json

mutual
/-- The components the `$ref` fragments inside a value point at. -/
def refs : Json → List String
  | .array items => refsAll items
  | .object fs => (referencedName? (.object fs)).toList ++ refsFields fs
  | _ => []

def refsAll : List Json → List String
  | [] => []
  | v :: rest => refs v ++ refsAll rest

def refsFields : Fields → List String
  | [] => []
  | (_, v) :: rest => refs v ++ refsFields rest
end

variable {y : String}

@[simp] theorem mem_refsAll {items : List Json} : y ∈ refsAll items ↔ ∃ v ∈ items, y ∈ v.refs := by
  induction items with
  | nil => simp [refsAll]
  | cons v rest ih => simp [refsAll, ih]

@[simp] theorem mem_refsFields {fs : Fields} : y ∈ refsFields fs ↔ ∃ p ∈ fs, y ∈ p.2.refs := by
  induction fs with
  | nil => simp [refsFields]
  | cons p rest ih =>
    obtain ⟨k, v⟩ := p
    simp [refsFields, ih]

@[simp] theorem refsAll_map_string (ss : List String) : refsAll (ss.map Json.string) = [] := by
  induction ss with
  | nil => rfl
  | cons s rest ih => simp [refsAll, refs, ih]

@[simp] theorem refsFields_append (fs gs : Fields) :
    refsFields (fs ++ gs) = refsFields fs ++ refsFields gs := by
  induction fs with
  | nil => rfl
  | cons p rest ih =>
    obtain ⟨k, v⟩ := p
    simp [refsFields, ih]

@[simp] theorem refs_array (items : List Json) : (Json.array items).refs = refsAll items := by
  simp [refs]

theorem refs_object (fs : Fields) :
    (Json.object fs).refs = (referencedName? (.object fs)).toList ++ refsFields fs := by
  simp [refs]

theorem refs_object_of_not_mem {fs : Fields} (absent : "$ref" ∉ fs.keys) :
    (Json.object fs).refs = refsFields fs := by
  have none : get? (.object fs) "$ref" = none := Fields.get?_eq_none_iff.2 absent
  simp [refs_object, referencedName?, none]

@[simp] theorem refs_string (s : String) : (Json.string s).refs = [] := by simp [refs]

@[simp] theorem refs_bool (b : Bool) : (Json.bool b).refs = [] := by simp [refs]

@[simp] theorem refs_number (n : JsonNumber) : (Json.number n).refs = [] := by simp [refs]

theorem mem_refs_of_referencedName? {v : Json} (h : referencedName? v = some y) : y ∈ v.refs := by
  cases v with
  | object fs => simp [refs_object, h]
  | _ => simp [referencedName?, get?] at h

end Json

open Json

@[simp] theorem referencedName?_reference (x : String) : referencedName? (reference x) = some x := by
  simp [referencedName?, reference, get?, Fields.get?]
  apply String.toList_injective
  simp [← String.length_toList]

@[simp] theorem refs_reference (x : String) : (reference x).refs = [x] := by
  rw [reference, refs_object, ← reference]
  simp [refsFields]

@[simp] theorem refs_literal (l : Literal) : l.toJson.refs = [] := by
  cases l with
  | number x =>
    simp only [Literal.toJson, numberJson]
    split
    · split
      · split <;> simp
      · simp
    · simp
  | _ => simp [Literal.toJson]

end OpenApiGen
