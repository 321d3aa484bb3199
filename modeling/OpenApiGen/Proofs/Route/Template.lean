import Mathlib.Data.List.Infix
import OpenApiGen.Route.Template

/-!
# Path templates

`paramOpenings` counts the `:`s right after a `/`. A template is that many characters longer than
its path, and the template of a template is itself (`pathTemplate_idempotent`).
-/

namespace OpenApiGen

/-- The parameters a text opens: its `:`s that come right after a `/`. -/
def paramOpenings : List Char → Nat
  | [] => 0
  | c :: rest => (if c = '/' ∧ rest.head? = some ':' then 1 else 0) + paramOpenings rest

theorem paramOpenings_cons (c : Char) (rest : List Char) :
    paramOpenings (c :: rest) =
      (if c = '/' ∧ rest.head? = some ':' then 1 else 0) + paramOpenings rest :=
  rfl

theorem paramOpenings_pos_iff {cs : List Char} : 0 < paramOpenings cs ↔ ['/', ':'] <:+: cs := by
  induction cs with
  | nil => simp [paramOpenings]
  | cons c rest ih =>
    have opensHere : ['/', ':'] <+: c :: rest ↔ c = '/' ∧ rest.head? = some ':' := by
      cases rest <;> simp [eq_comm]
    rw [List.infix_cons_iff, opensHere, ← ih, paramOpenings_cons]
    split
    · next here => exact iff_of_true (by omega) (.inl here)
    · next notHere => simp [notHere]

/-! ## The scan, from any state -/

section Scan

variable {prev : Option Char} {inParam : Bool} {cs : List Char}

theorem templateOpens_iff {c : Char} :
    (prev.isSome && prev == some '/' && c == ':') = true ↔ prev = some '/' ∧ c = ':' := by
  cases prev <;> simp

theorem paramOpenings_after_nil (prev : Option Char) : paramOpenings prev.toList = 0 := by
  cases prev <;> simp [paramOpenings]

theorem paramOpenings_after (prev : Option Char) (c : Char) (rest : List Char) :
    paramOpenings (prev.toList ++ c :: rest) =
      (if prev = some '/' ∧ c = ':' then 1 else 0) + paramOpenings (c :: rest) := by
  cases prev <;> simp [paramOpenings_cons]

theorem paramOpenings_templateChars :
    paramOpenings (prev.toList ++ templateChars prev inParam cs) = 0 := by
  fun_induction templateChars prev inParam cs with
  | case1 prev => simp [paramOpenings_after, paramOpenings]
  | case2 prev => simp [paramOpenings_after_nil]
  | case3 prev inParam c rest closes ih =>
    simp only [Option.toList_some, List.singleton_append] at ih
    simp [paramOpenings_after, paramOpenings_cons, ih]
  | case4 prev inParam c rest _ opens ih =>
    simp only [Option.toList_some, List.singleton_append, paramOpenings_cons,
      Nat.add_eq_zero_iff] at ih
    simp [paramOpenings_after, paramOpenings_cons, ih.2]
  | case5 prev inParam c rest _ copies ih =>
    rw [templateOpens_iff] at copies
    simp only [Option.toList_some, List.singleton_append] at ih
    simp [paramOpenings_after, ih, copies]

theorem length_templateChars (open_ : inParam = true → ∃ c, prev = some c ∧ c ≠ '/') :
    (templateChars prev inParam cs).length =
      cs.length + paramOpenings (prev.toList ++ cs) + (if inParam then 1 else 0) := by
  fun_induction templateChars prev inParam cs with
  | case1 prev => simp [paramOpenings_after_nil]
  | case2 prev plain => simp_all [paramOpenings_after_nil]
  | case3 prev inParam c rest closes ih =>
    simp only [Bool.and_eq_true, Bool.or_eq_true, beq_iff_eq] at closes
    obtain ⟨⟨-, rfl⟩, ends⟩ := closes
    have notColon : c ≠ ':' := by rcases ends with rfl | rfl <;> decide
    simp only [Option.toList_some, List.singleton_append] at ih
    simp [paramOpenings_after, notColon, ih]
    omega
  | case4 prev inParam c rest _ opens ih =>
    obtain ⟨rfl, rfl⟩ := templateOpens_iff.1 opens
    -- the `/` before the `:` closed any parameter open before it
    have closed : inParam = false := by
      cases inParam with
      | false => rfl
      | true => simp at open_
    simp only [Option.toList_some, List.singleton_append] at ih
    simp [paramOpenings_cons, ih, closed]
    omega
  | case5 prev inParam c rest stays copies ih =>
    rw [templateOpens_iff] at copies
    simp only [Bool.and_eq_true, Bool.or_eq_true, beq_iff_eq, not_and, not_or] at stays
    have stillOpen : inParam = true → ∃ c', some c = some c' ∧ c' ≠ '/' := by
      intro isOpen
      obtain ⟨p, rfl, -⟩ := open_ isOpen
      exact ⟨c, rfl, (stays ⟨rfl, isOpen⟩).1⟩
    have step := ih stillOpen
    simp only [Option.toList_some, List.singleton_append] at step
    simp [paramOpenings_after, copies, step]
    omega

theorem count_templateChars :
    (templateChars prev inParam cs).count '\x7b' =
      cs.count '\x7b' + paramOpenings (prev.toList ++ cs) := by
  fun_induction templateChars prev inParam cs with
  | case1 prev => simp [paramOpenings_after_nil]
  | case2 prev => simp [paramOpenings_after_nil]
  | case3 prev inParam c rest closes ih =>
    simp only [Bool.and_eq_true, Bool.or_eq_true, beq_iff_eq] at closes
    have notColon : c ≠ ':' := by rcases closes.2 with rfl | rfl <;> decide
    simp only [Option.toList_some, List.singleton_append] at ih
    simp [paramOpenings_after, notColon, ih, List.count_cons]
    omega
  | case4 prev inParam c rest _ opens ih =>
    obtain ⟨rfl, rfl⟩ := templateOpens_iff.1 opens
    simp only [Option.toList_some, List.singleton_append] at ih
    simp [paramOpenings_cons, ih]
    omega
  | case5 prev inParam c rest _ copies ih =>
    rw [templateOpens_iff] at copies
    simp only [Option.toList_some, List.singleton_append] at ih
    simp [paramOpenings_after, copies, ih, List.count_cons]
    omega

theorem templateChars_of_paramOpenings (none_ : paramOpenings (prev.toList ++ cs) = 0) :
    templateChars prev false cs = cs := by
  induction cs generalizing prev with
  | nil => simp [templateChars]
  | cons c rest ih =>
    rw [paramOpenings_after, Nat.add_eq_zero_iff] at none_
    have copies : ¬ (prev = some '/' ∧ c = ':') := by
      intro opening
      simp [opening] at none_
    have restNone : paramOpenings ((some c).toList ++ rest) = 0 := by simpa using none_.2
    rw [← templateOpens_iff] at copies
    simp [templateChars, copies, ih restNone]

end Scan

/-! ## Path templates -/

section Template

variable {p : String}

@[simp] theorem toList_pathTemplate : (pathTemplate p).toList = templateChars none false p.toList :=
  String.toList_ofList

theorem length_pathTemplate : (pathTemplate p).length = p.length + paramOpenings p.toList := by
  rw [← String.length_toList, toList_pathTemplate, length_templateChars (by simp)]
  simp [String.length_toList]

theorem pathTemplate_eq_self_iff : pathTemplate p = p ↔ paramOpenings p.toList = 0 := by
  constructor
  · intro same
    have lengths := congrArg String.length same
    rw [length_pathTemplate] at lengths
    omega
  · intro none_
    rw [← String.toList_inj, toList_pathTemplate]
    exact templateChars_of_paramOpenings (by simpa using none_)

/-- The template of a template is itself; a path is its own template exactly when no `/` in it is
followed by `:`; and the template is longer than the path by the parameters it opens, each of
which writes one more `{`. -/
theorem pathTemplate_idempotent :
    pathTemplate (pathTemplate p) = pathTemplate p ∧
      (pathTemplate p = p ↔ ¬ ['/', ':'] <:+: p.toList) ∧
      (pathTemplate p).length = p.length + paramOpenings p.toList ∧
      (pathTemplate p).toList.count '\x7b' = p.toList.count '\x7b' + paramOpenings p.toList := by
  refine ⟨?idempotent, ?fixed, length_pathTemplate, ?braces⟩
  case idempotent =>
    rw [pathTemplate_eq_self_iff, toList_pathTemplate]
    simpa using @paramOpenings_templateChars none false p.toList
  case fixed =>
    rw [pathTemplate_eq_self_iff, ← paramOpenings_pos_iff]
    omega
  case braces =>
    rw [toList_pathTemplate, count_templateChars]
    simp

example : pathTemplate "/a/:id?x=1" = "/a/\x7bid\x7d?x=1" := by decide

end Template

end OpenApiGen
