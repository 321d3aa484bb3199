import OpenApiGen.Json.Value
import OpenApiGen.Decimal.Shortest

/-!
Schema trees: what a route says its params, query and body look like.
-/

namespace OpenApiGen

inductive Primitive where
  | string
  | number
  | boolean
  | bigint
  | date
  | undefined
  | null
  | void
  | any
  | unknown
  deriving DecidableEq, Inhabited

namespace Primitive

def name : Primitive → String
  | .string => "string"
  | .number => "number"
  | .boolean => "boolean"
  | .bigint => "bigint"
  | .date => "date"
  | .undefined => "undefined"
  | .null => "null"
  | .void => "void"
  | .any => "any"
  | .unknown => "unknown"

def all : List Primitive :=
  [.string, .number, .boolean, .bigint, .date, .undefined, .null, .void, .any, .unknown]

def ofKind? (kind : String) : Option Primitive :=
  all.find? (fun p => p.name == kind)

end Primitive

/-- A member of an enum. -/
inductive Literal where
  | bool (b : Bool)
  | number (x : Float)
  | text (s : String)
  deriving Inhabited

/-- The whole number a finite double stands for, when it has no fraction. -/
def wholeValue? (x : Float) : Option Int :=
  match Decimal.Binary.ofFloat? x with
  | none => none
  | some b =>
    let magnitude : Option Nat :=
      if b.exponent ≥ 0 then some (b.mantissa * Nat.pow 2 b.exponent.toNat)
      else
        let d := Nat.pow 2 (-b.exponent).toNat
        if b.mantissa % d == 0 then some (b.mantissa / d) else none
    magnitude.map (fun m => if b.negative then -(m : Int) else m)

/-- A number literal's JSON: an integer when whole and in `[-2^63, 2^63)`, else a double. -/
def numberJson (x : Float) : Json :=
  match wholeValue? x with
  | some n =>
    if -(Nat.pow 2 63 : Int) ≤ n && n < Nat.pow 2 63 then
      if n ≥ 0 then .number (.unsigned n.toNat) else .number (.signed n)
    else .number (.double x)
  | none => .number (.double x)

def Literal.toJson : Literal → Json
  | .bool b => .bool b
  | .number x => numberJson x
  | .text s => .string s

/-- The identity of a named definition, shared by every reference to it. -/
abbrev DefinitionId := Nat

inductive Schema where
  | primitive (p : Primitive)
  | object (fields : List (String × Schema))
  | array (element : Schema)
  | tuple (elements : List Schema)
  | union (options : List Schema)
  | enum (values : List Literal)
  | record (value : Schema)
  | ref (id : DefinitionId)
  | other (kind : String)
  deriving Inhabited

namespace Schema

def kind : Schema → String
  | .primitive p => p.name
  | .object _ => "object"
  | .array _ => "array"
  | .tuple _ => "tuple"
  | .union _ => "union"
  | .enum _ => "enum"
  | .record _ => "record"
  | .ref _ => "lazy"
  | .other k => k

def isPrimitive (p : Primitive) : Schema → Bool
  | .primitive q => p == q
  | _ => false

def optional (inner : Schema) : Schema := .union [inner, .primitive .undefined]

def nullable (inner : Schema) : Schema := .union [inner, .primitive .null]

/-- A field is required unless it is a union with an `undefined` option; a `null` option alone
keeps it required. -/
def isRequired : Schema → Bool
  | .union options => !options.any (isPrimitive .undefined)
  | _ => true

end Schema

abbrev Bodies := List (DefinitionId × Schema)

def Bodies.take? : Bodies → DefinitionId → Option (Schema × Bodies)
  | [], _ => none
  | (i, b) :: rest, id =>
    if i == id then some (b, rest)
    else match Bodies.take? rest id with
      | none => none
      | some (found, others) => some (found, (i, b) :: others)

theorem Bodies.take?_length {bs : Bodies} {id : DefinitionId} {b : Schema} {rest : Bodies}
    (h : Bodies.take? bs id = some (b, rest)) : rest.length < bs.length := by
  induction bs generalizing b rest with
  | nil => simp [Bodies.take?] at h
  | cons hd tl ih =>
    obtain ⟨i, body⟩ := hd
    simp only [Bodies.take?] at h
    split at h
    · simp_all
    · split at h
      · simp at h
      · next found others heq =>
        simp only [Option.some.injEq, Prod.mk.injEq] at h
        obtain ⟨rfl, rfl⟩ := h
        have := ih heq
        simp only [List.length_cons]
        omega

end OpenApiGen
