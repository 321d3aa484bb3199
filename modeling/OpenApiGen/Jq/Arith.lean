import OpenApiGen.Jq.Error
/-!
Arithmetic on jq values.
-/

namespace OpenApiGen.Jq

inductive MathOp where
  | add | sub | mul | div | rem
  deriving Inhabited, BEq

def MathOp.symbol : MathOp → String
  | .add => "+" | .sub => "-" | .mul => "*" | .div => "/" | .rem => "%"

inductive CmpOp where
  | eq | ne | lt | le | gt | ge
  deriving Inhabited, BEq

def CmpOp.holds : CmpOp → Ordering → Bool
  | .eq, o => o == .eq
  | .ne, o => o != .eq
  | .lt, o => o == .lt
  | .le, o => o != .gt
  | .gt, o => o == .gt
  | .ge, o => o != .lt

/-- A double as sign, whole-number mantissa and binary exponent: `±m · 2^e` (finite only). -/
def Float.exactParts (x : Float) : Bool × Nat × Int :=
  let bits := x.toBits.toNat
  let negative := bits ≥ Nat.pow 2 63
  let field := bits / Nat.pow 2 52 % 2048
  let fraction := bits % Nat.pow 2 52
  if field == 0 then (negative, fraction, -1074)
  else (negative, fraction + Nat.pow 2 52, (field : Int) - 1075)

/-- The remainder of a division of doubles, truncated toward zero and exact: the result has the
sign of the dividend and is smaller in size than the divisor. -/
def Float.truncRem (x y : Float) : Float :=
  if x.isNaN || y.isNaN || x.isInf || y == 0 then 0.0 / 0.0
  else if y.isInf || x == 0 then x
  else
    let (sx, mx, ex) := Float.exactParts x
    let (_, my, ey) := Float.exactParts y
    let e := min ex ey
    let bigX := mx * Nat.pow 2 (ex - e).toNat
    let bigY := my * Nat.pow 2 (ey - e).toNat
    let r := Float.scaleB (Float.ofNat (bigX % bigY)) e
    if sx then -r else r

namespace Value

/-- A kept number text as the number arithmetic uses (`null` if the text is no number). -/
def numeric : Value → Value
  | .num t => ofDecimal t
  | v => v

def wordResult (n : Int) (verb : String) : Except Exn Value :=
  if fitsWord n then .ok (.int n) else .error (.failure ("attempt to " ++ verb ++ " with overflow"))

/-- Merges two objects deeply: where both sides hold objects under a key, they merge in turn;
otherwise the right side wins. -/
def deepMerge : Nat → List (String × Value) → List (String × Value) → List (String × Value)
  | 0, l, _ => l
  | fuel + 1, l, r =>
    r.foldl (fun acc (k, v) =>
      match field? acc k, v with
      | some (.obj a), .obj b => setField acc k (.obj (deepMerge fuel a b))
      | _, _ => setField acc k v) l

def repeatString (s : String) (n : Nat) : String :=
  String.join (List.replicate n s)

/-- A string split at every occurrence of a separator. An empty string has no parts, and an
empty separator splits into characters. -/
def splitText (s sep : String) : List String :=
  if s.isEmpty then []
  else if sep.isEmpty then s.toList.map String.singleton
  else s.splitOn sep

def floatOp : MathOp → Float → Float → Float
  | .add, x, y => x + y
  | .sub, x, y => x - y
  | .mul, x, y => x * y
  | .div, x, y => x / y
  | .rem, x, y => Float.truncRem x y

/-- An arithmetic operator on values none of which is a kept number text. -/
def mathPlain (op : MathOp) (l r : Value) : Except Exn Value :=
  match op, l, r with
  | .add, .null, x | .add, x, .null => .ok x
  | .add, .int x, .int y => wordResult (x + y) "add"
  | .sub, .int x, .int y => wordResult (x - y) "subtract"
  | .mul, .int x, .int y => wordResult (x * y) "multiply"
  | .rem, .int x, .int y =>
    if y == 0 then .error (.error (JqError.arithmetic l op.symbol r))
    else if x == intMin && y == -1 then
      .error (.failure "attempt to calculate the remainder with overflow")
    else .ok (.int (x.tmod y))
  | op, .int x, .int y => .ok (.float (floatOp op (Float.ofInt x) (Float.ofInt y)))
  | op, .float x, .int y => .ok (.float (floatOp op x (Float.ofInt y)))
  | op, .int x, .float y => .ok (.float (floatOp op (Float.ofInt x) y))
  | op, .float x, .float y => .ok (.float (floatOp op x y))
  | .add, .str x, .str y => .ok (.str (x ++ y))
  | .add, .arr x, .arr y => .ok (.arr (x ++ y))
  | .add, .obj x, .obj y => .ok (.obj (extendFields x y))
  | .sub, .arr x, .arr y => .ok (.arr (x.filter fun a => !y.any (· == a)))
  | .mul, .str s, .int n | .mul, .int n, .str s =>
    .ok (if n ≤ 0 then .null else .str (repeatString s n.toNat))
  | .mul, .obj x, .obj y =>
    .ok (.obj (deepMerge (max (Value.obj x).depth (Value.obj y).depth + 1) x y))
  | .div, .str x, .str y => .ok (.arr ((splitText x y).map .str))
  | op, l, r => .error (.error (JqError.arithmetic l op.symbol r))

/-- Applies an arithmetic operator to two values. `null` added to anything gives the other side
as it is; otherwise kept number texts are read as doubles first. -/
def math (op : MathOp) (l r : Value) : Except Exn Value :=
  match op, l, r with
  | .add, .null, x | .add, x, .null => .ok x
  | op, l, r => mathPlain op l.numeric r.numeric

def negate : Value → Except Exn Value
  | .int x => wordResult (-x) "negate"
  | .float x => .ok (.float (-x))
  | .num t =>
    match ofDecimal t with
    | .float x => .ok (.float (-x))
    | v => .error (.error (JqError.typeMismatch v "number"))
  | v => .error (.error (JqError.typeMismatch v "number"))

def cmp (op : CmpOp) (l r : Value) : Value := .bool (op.holds (compareValues l r))

end Value

end OpenApiGen.Jq
