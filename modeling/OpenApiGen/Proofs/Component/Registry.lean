import Std.Data.String.ToNat
import OpenApiGen.Component.Registry
import OpenApiGen.Proofs.Json.Fields

/-!
# The registry's representation invariant

`Registry.Valid`: the generated names are `type<first>`, …, `type<next - 1>` in order, the only
other name is `anyType` with its fixed schema, and the memo gives distinct definitions distinct
names. Allocating, reserving and filling keep it.
-/

namespace OpenApiGen

theorem Except.bind_eq_ok {ε α β : Type} {x : Except ε α} {f : α → Except ε β} {b : β} :
    x >>= f = .ok b ↔ ∃ a, x = .ok a ∧ f a = .ok b := by
  cases x with
  | error e => simp [bind, Except.bind]
  | ok a => simp [bind, Except.bind]

theorem Except.pure_eq_ok {ε α : Type} {a b : α} : (pure a : Except ε α) = .ok b ↔ a = b := by
  simp [pure, Except.pure]

namespace Registry

def typeName (n : Nat) : String := "type" ++ toString n

theorem typeName_injective : Function.Injective typeName := by
  intro a b equal
  have digits : Nat.repr a = Nat.repr b := by
    have := congrArg String.toList equal
    simp only [typeName, String.toList_append, List.append_cancel_left_eq] at this
    exact String.toList_injective this
  have decoded := Nat.toNat?_repr a
  rw [digits, Nat.toNat?_repr] at decoded
  exact (Option.some.inj decoded).symm

theorem typeName_ne_anyTypeName (n : Nat) : typeName n ≠ anyTypeName := by
  intro equal
  have := congrArg String.toList equal
  simp [typeName, anyTypeName] at this

variable {r r' : Registry} {key : Option ComponentKey} {name : String} {d : Json}

/-! ## The operations -/

/-- The largest counter value; allocating at it fails. -/
abbrev lastIndex : UInt32 := 4294967295

theorem toNat_next_succ (h : r.next ≠ lastIndex) : (r.next + 1).toNat = r.next.toNat + 1 := by
  have below : r.next.toNat ≠ 4294967295 := fun e => h (UInt32.toNat_inj.1 (e.trans rfl))
  have bound := r.next.toNat_lt
  simp only [UInt32.toNat_add, UInt32.reduceToNat]
  omega

theorem allocate_eq_ok :
    r.allocate = .ok (name, r') ↔
      r.next ≠ lastIndex ∧ name = typeName r.next.toNat ∧ r' = { r with next := r.next + 1 } := by
  unfold allocate
  split
  · next full => simp [full]
  · next room => simp [room, typeName, eq_comm]

theorem reserve_eq_ok :
    r.reserve key = .ok (name, r') ↔
      r.next ≠ lastIndex ∧ name = typeName r.next.toNat ∧
        r' = ({ r with next := r.next + 1 } : Registry).register key name (.object []) := by
  simp only [reserve, Except.bind_eq_ok, Except.pure_eq_ok, Prod.exists, Prod.mk.injEq,
    allocate_eq_ok]
  constructor
  · rintro ⟨n, s, ⟨room, rfl, rfl⟩, rfl, rfl⟩
    exact ⟨room, rfl, rfl⟩
  · rintro ⟨room, rfl, rfl⟩
    exact ⟨_, _, ⟨room, rfl, rfl⟩, rfl, rfl⟩

@[simp] theorem register_first : (r.register key name d).first = r.first := rfl

@[simp] theorem register_next : (r.register key name d).next = r.next := rfl

@[simp] theorem register_schemas :
    (r.register key name d).schemas = Fields.insert r.schemas name d := rfl

@[simp] theorem register_none_memo : (r.register none name d).memo = r.memo := rfl

theorem find?_filter_ne {k k' : ComponentKey} (memo : List (ComponentKey × String)) (h : k ≠ k') :
    (memo.filter (fun p => p.1 != k')).find? (fun p => p.1 == k) = memo.find? (fun p => p.1 == k) := by
  induction memo with
  | nil => rfl
  | cons p rest ih =>
    by_cases hp : p.1 = k'
    · have hk : p.1 ≠ k := fun e => h (e ▸ hp)
      rw [List.filter_cons_of_neg (by simpa using hp), ih, List.find?_cons_of_neg (by simpa using hk)]
    · rw [List.filter_cons_of_pos (by simpa using hp)]
      by_cases hk : p.1 = k
      · rw [List.find?_cons_of_pos (by simpa using hk), List.find?_cons_of_pos (by simpa using hk)]
      · rw [List.find?_cons_of_neg (by simpa using hk), List.find?_cons_of_neg (by simpa using hk), ih]

theorem lookup_register (k : ComponentKey) :
    (r.register key name d).lookup k = if key = some k then some name else r.lookup k := by
  cases key with
  | none => simp [register, lookup]
  | some k' =>
    by_cases h : k' = k
    · subst h
      simp [register, lookup]
    · simp only [register, lookup, Option.some.injEq, h, if_false]
      rw [List.find?_cons_of_neg (by simpa using h), find?_filter_ne _ (fun e => h e.symm)]

theorem get?_register (n : String) : (r.register key name d).get? n = if n = name then some d else r.get? n :=
  Fields.get?_insert

@[simp] theorem lookup_register_none (k : ComponentKey) : (r.register none name d).lookup k = r.lookup k :=
  rfl

theorem anyType_eq :
    r.anyType = (reference anyTypeName,
      if r.lookup .anyType = none then r.register (some .anyType) anyTypeName anyTypeSchema else r) := by
  unfold anyType
  split <;> simp_all

@[simp] theorem reset_eq : r.reset = new r.first := rfl

/-! ## Growth -/

/-- `r'` extends `r`: the same first index, a counter no lower, every name of `r` still present
and every memo entry of `r` unchanged. -/
structure Grows (r r' : Registry) : Prop where
  first : r'.first = r.first
  next_le : r.next.toNat ≤ r'.next.toNat
  keys : r.schemas.keys ⊆ r'.schemas.keys
  lookup : ∀ k x, r.lookup k = some x → r'.lookup k = some x

theorem Grows.refl (r : Registry) : r.Grows r := ⟨rfl, Nat.le_refl _, List.Subset.refl _, fun _ _ => id⟩

theorem Grows.trans {r₁ r₂ r₃ : Registry} (h₁ : r₁.Grows r₂) (h₂ : r₂.Grows r₃) : r₁.Grows r₃ :=
  ⟨h₂.first.trans h₁.first, Nat.le_trans h₁.next_le h₂.next_le, fun _ m => h₂.keys (h₁.keys m),
    fun k x found => h₂.lookup k x (h₁.lookup k x found)⟩

theorem grows_register_none : r.Grows (r.register none name d) :=
  ⟨rfl, Nat.le_refl _, fun _ member => Fields.mem_keys_insert.2 (.inr member), fun _ _ => id⟩

theorem grows_reserve (h : r.reserve key = .ok (name, r'))
    (fresh : ∀ k, key = some k → r.lookup k = none) : r.Grows r' := by
  obtain ⟨room, -, rfl⟩ := reserve_eq_ok.1 h
  refine ⟨rfl, by simp [toNat_next_succ room], ?_, ?_⟩
  · intro x member
    exact Fields.mem_keys_insert.2 (.inr member)
  · intro k x found
    rw [lookup_register]
    split
    · next same => rw [fresh k same] at found; cases found
    · exact found

theorem grows_anyType : r.Grows r.anyType.2 := by
  rw [anyType_eq]
  split
  · next unknown =>
    refine ⟨rfl, Nat.le_refl _, fun x member => Fields.mem_keys_insert.2 (.inr member), ?_⟩
    intro k x found
    rw [lookup_register]
    split
    · next same => cases same; rw [unknown] at found; cases found
    · exact found
  · exact Grows.refl r

/-! ## The invariant -/

/-- The registry's representation invariant. -/
structure Valid (r : Registry) : Prop where
  first_le : r.first.toNat ≤ r.next.toNat
  generated : r.schemas.keys.filter (· != anyTypeName) =
    (List.range' r.first.toNat (r.next.toNat - r.first.toNat)).map typeName
  nodup : r.schemas.keys.Nodup
  anyType_lookup : r.lookup .anyType = if anyTypeName ∈ r.schemas.keys then some anyTypeName else none
  anyType_schema : anyTypeName ∈ r.schemas.keys → r.get? anyTypeName = some anyTypeSchema
  definition_generated : ∀ i x, r.lookup (.definition i) = some x →
    ∃ n, r.first.toNat ≤ n ∧ n < r.next.toNat ∧ x = typeName n
  definition_injective : ∀ i j x, r.lookup (.definition i) = some x →
    r.lookup (.definition j) = some x → i = j

theorem valid_new (first : UInt32) : (new first).Valid where
  first_le := Nat.le_refl _
  generated := by simp [new, Fields.keys]
  nodup := by simp [new, Fields.keys]
  anyType_lookup := by simp [new, lookup, Fields.keys]
  anyType_schema := by simp [new, Fields.keys]
  definition_generated := by simp [new, lookup]
  definition_injective := by simp [new, lookup]

namespace Valid

variable (valid : r.Valid)
include valid

theorem mem_keys_iff (x : String) :
    x ∈ r.schemas.keys ↔
      x = anyTypeName ∧ anyTypeName ∈ r.schemas.keys ∨
        ∃ n, r.first.toNat ≤ n ∧ n < r.next.toNat ∧ x = typeName n := by
  have generated : x ∈ r.schemas.keys.filter (· != anyTypeName) ↔
      x ∈ (List.range' r.first.toNat (r.next.toNat - r.first.toNat)).map typeName := by
    rw [valid.generated]
  simp only [List.mem_filter, bne_iff_ne, ne_eq, List.mem_map, List.mem_range'_1] at generated
  constructor
  · intro member
    by_cases h : x = anyTypeName
    · exact .inl ⟨h, h ▸ member⟩
    · obtain ⟨n, ⟨lower, upper⟩, rfl⟩ := generated.1 ⟨member, h⟩
      exact .inr ⟨n, lower, by omega, rfl⟩
  · rintro (⟨rfl, member⟩ | ⟨n, lower, upper, rfl⟩)
    · exact member
    · exact (generated.2 ⟨n, ⟨lower, by omega⟩, rfl⟩).1

theorem typeName_mem_keys {n : Nat} (lower : r.first.toNat ≤ n) (upper : n < r.next.toNat) :
    typeName n ∈ r.schemas.keys :=
  (valid.mem_keys_iff _).2 (.inr ⟨n, lower, upper, rfl⟩)

theorem typeName_next_not_mem : typeName r.next.toNat ∉ r.schemas.keys := by
  rw [valid.mem_keys_iff]
  rintro (⟨equal, -⟩ | ⟨n, -, upper, equal⟩)
  · exact typeName_ne_anyTypeName _ equal
  · exact absurd (typeName_injective equal) (by omega)

theorem anyType_lookup_eq_some {x : String} (h : r.lookup .anyType = some x) : x = anyTypeName := by
  have := valid.anyType_lookup
  split at this <;> simp_all

theorem fill (present : name ∈ r.schemas.keys) (generated : name ≠ anyTypeName) :
    (r.register none name d).Valid where
  first_le := valid.first_le
  generated := by
    rw [register_schemas, Fields.keys_insert, if_pos present]
    exact valid.generated
  nodup := Fields.nodup_keys_insert valid.nodup
  anyType_lookup := by
    have absent : anyTypeName ≠ name := Ne.symm generated
    simp only [lookup_register_none, register_schemas, Fields.mem_keys_insert, absent, false_or]
    exact valid.anyType_lookup
  anyType_schema := by
    intro member
    rw [get?_register, if_neg (Ne.symm generated)]
    apply valid.anyType_schema
    simpa [Ne.symm generated] using member
  definition_generated := by simpa using valid.definition_generated
  definition_injective := by simpa using valid.definition_injective

theorem reserve (room : r.next ≠ lastIndex) (notAny : key ≠ some .anyType) :
    (({ r with next := r.next + 1 } : Registry).register key (typeName r.next.toNat)
      (.object [])).Valid := by
  have succ := toNat_next_succ room
  have fresh := valid.typeName_next_not_mem
  have notAnyName := typeName_ne_anyTypeName r.next.toNat
  have le := valid.first_le
  constructor
  · simp only [register_first, register_next, succ]
    omega
  · simp only [register_first, register_next, register_schemas, succ]
    rw [Fields.keys_insert, if_neg fresh, List.filter_append, valid.generated,
      show r.next.toNat + 1 - r.first.toNat = (r.next.toNat - r.first.toNat) + 1 by omega,
      List.range'_concat]
    simp [notAnyName, show r.first.toNat + (r.next.toNat - r.first.toNat) = r.next.toNat by omega]
  · exact Fields.nodup_keys_insert valid.nodup
  · have other : key ≠ some .anyType := notAny
    simp only [lookup_register, other, if_false, register_schemas, Fields.mem_keys_insert,
      Ne.symm notAnyName, false_or]
    exact valid.anyType_lookup
  · intro member
    simp only [register_schemas, Fields.mem_keys_insert, Ne.symm notAnyName, false_or] at member
    rw [get?_register, if_neg (Ne.symm notAnyName)]
    exact valid.anyType_schema member
  · intro i x found
    rw [lookup_register] at found
    split at found
    · cases found
      exact ⟨r.next.toNat, le, by simp [succ], rfl⟩
    · obtain ⟨n, lower, upper, rfl⟩ := valid.definition_generated i x found
      exact ⟨n, lower, by simp [succ]; omega, rfl⟩
  · intro i j x found found'
    rw [lookup_register] at found found'
    split at found <;> split at found'
    · next hi hj => rw [hi] at hj; cases hj; rfl
    · next hi hj =>
      cases found
      obtain ⟨n, -, upper, equal⟩ := valid.definition_generated j _ found'
      exact absurd (typeName_injective equal) (by omega)
    · next hi hj =>
      cases found'
      obtain ⟨n, -, upper, equal⟩ := valid.definition_generated i _ found
      exact absurd (typeName_injective equal) (by omega)
    · exact valid.definition_injective i j x found found'

theorem of_reserve (reserved : r.reserve key = .ok (name, r')) (notAny : key ≠ some .anyType) :
    r'.Valid ∧ name ∈ r'.schemas.keys ∧ name ≠ anyTypeName := by
  obtain ⟨room, rfl, rfl⟩ := reserve_eq_ok.1 reserved
  exact ⟨valid.reserve room notAny, by simp, typeName_ne_anyTypeName _⟩


theorem anyType : r.anyType.2.Valid := by
  rw [anyType_eq]
  split
  · next unknown =>
    have absent : anyTypeName ∉ r.schemas.keys := by
      intro member
      have := valid.anyType_lookup
      rw [if_pos member, unknown] at this
      cases this
    constructor
    · exact valid.first_le
    · simp only [register_first, register_next, register_schemas]
      rw [Fields.keys_insert, if_neg absent, List.filter_append, valid.generated]
      simp
    · exact Fields.nodup_keys_insert valid.nodup
    · simp [lookup_register]
    · intro _
      simp [get?_register]
    · intro i x found
      simp only [lookup_register, Option.some.injEq, reduceCtorEq, if_false] at found
      exact valid.definition_generated i x found
    · intro i j x found found'
      simp only [lookup_register, Option.some.injEq, reduceCtorEq, if_false] at found found'
      exact valid.definition_injective i j x found found'
  · exact valid

end Valid

end Registry

end OpenApiGen
