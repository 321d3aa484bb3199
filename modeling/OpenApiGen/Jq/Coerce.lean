import OpenApiGen.Jq.Arith
/-!
Values taken as the kinds that built-in filters need: a string, an array, a double, a word
integer. A value of another kind is an error that names the kind needed.
-/

namespace OpenApiGen.Jq

namespace Builtin

def asString : Value → Except JqError String
  | .str s => .ok s
  | v => .error (JqError.typeMismatch v "string")

def asArray : Value → Except JqError (List Value)
  | .arr a => .ok a
  | v => .error (JqError.typeMismatch v "array")

/-- A double truncated to a word integer, saturating at the ends; not-a-number gives `0`. -/
def floatToWord (x : Float) : Int :=
  if x.isNaN then 0
  else if x ≥ 9223372036854775808.0 then Value.intMax
  else if x ≤ -9223372036854775808.0 then Value.intMin
  else
    let (negative, m, e) := Float.exactParts x
    let magnitude : Nat := if e ≥ 0 then m * Nat.pow 2 e.toNat else m / Nat.pow 2 (-e).toNat
    if negative then -(magnitude : Int) else magnitude

/-- Rounds a number to a word integer by a rounding of doubles; integers stay. -/
def roundWith (f : Float → Float) (v : Value) : Except JqError Value :=
  match v.numeric with
  | .int i => .ok (.int i)
  | .float x => .ok (.int (floatToWord (f x)))
  | _ => .error (JqError.typeMismatch v "number")

def asFloat (v : Value) : Except JqError Float :=
  match v.numeric with
  | .int i => .ok (Float.ofInt i)
  | .float x => .ok x
  | _ => .error (JqError.typeMismatch v "floating-point number")

def asInt (v : Value) : Except JqError Int :=
  match v with
  | .int i => .ok i
  | _ => .error (JqError.typeMismatch v "integer")

end Builtin

end OpenApiGen.Jq
