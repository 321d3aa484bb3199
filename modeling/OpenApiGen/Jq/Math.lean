import OpenApiGen.Jq.Arith
/-!
The functions of the C mathematical library on doubles.
-/

namespace OpenApiGen.Jq

namespace Math

def inf : Float := 1.0 / 0.0

def nan : Float := 0.0 / 0.0

def signBit (x : Float) : Bool := x.toBits.toNat ≥ Nat.pow 2 63

def copysign (x y : Float) : Float :=
  let m := x.toBits.toNat % Nat.pow 2 63
  Float.ofBits (UInt64.ofNat (if signBit y then m + Nat.pow 2 63 else m))

def trunc (x : Float) : Float :=
  if x.isNaN || x.isInf then x
  else if x < 0 then copysign (-x).floor x else x.floor

def ldexp (x : Float) (n : Int) : Float :=
  Float.scaleB x (max (-4000) (min 4000 n))

/-- The mantissa in `[0.5, 1)` and the exponent of a double; zero, infinities and not-a-number
give themselves and `0`. -/
def frexp (x : Float) : Float × Int :=
  if x == 0 || x.isNaN || x.isInf then (x, 0)
  else
    let (_, m, e) := Float.exactParts x
    let bits := Nat.log2 m + 1
    let exp := e + bits
    (ldexp x (-exp), exp)

def modf (x : Float) : Float × Float :=
  if x.isNaN then (x, x)
  else if x.isInf then (copysign 0.0 x, x)
  else
    let w := trunc x
    (copysign (x - w) x, w)

def significand (x : Float) : Float :=
  if x == 0 || x.isNaN || x.isInf then x else ldexp (frexp x).1 1

def logb (x : Float) : Float :=
  if x.isNaN then x
  else if x.isInf then inf
  else if x == 0 then -inf
  else Float.ofInt ((frexp x).2 - 1)

def nextafter (x y : Float) : Float :=
  if x.isNaN || y.isNaN then x + y
  else if x == y then y
  else if x == 0 then copysign (Float.ofBits 1) y
  else
    let bits := x.toBits.toNat
    let up := (x < y) == (x > 0)
    Float.ofBits (UInt64.ofNat (if up then bits + 1 else bits - 1))

def fmax (x y : Float) : Float :=
  if x.isNaN then y else if y.isNaN then x else if x < y then y else x

def fmin (x y : Float) : Float :=
  if x.isNaN then y else if y.isNaN then x else if y < x then y else x

def fdim (x y : Float) : Float :=
  if x.isNaN || y.isNaN then x + y else if x > y then x - y else 0.0

def remainder (x y : Float) : Float :=
  if x.isNaN || y.isNaN || x.isInf || y == 0 then nan
  else if y.isInf then x
  else
    let r := Float.truncRem x y
    let ay := y.abs
    let ar := r.abs
    -- compare 2|r| with |y| exactly by halving |y|
    let half := ay / 2.0
    let q := (x / y).abs.floor
    if ar > half || (ar == half && (Float.truncRem q 2.0) == 1.0) then
      if signBit r then r + ay else r - ay
    else r

def scalb (x y : Float) : Float :=
  if x.isNaN || y.isNaN then nan
  else if y.isInf then (if y > 0 then x * inf else x / inf)
  else if y != y.floor then nan
  else ldexp x (if y > 1e6 then 1000000 else if y < -1e6 then -1000000 else
    (Float.toInt64 y).toInt)

def hypot (x y : Float) : Float :=
  if x.isInf || y.isInf then inf
  else if x.isNaN || y.isNaN then nan
  else
    let a := x.abs
    let b := y.abs
    let big := fmax a b
    let small := fmin a b
    if big == 0 then 0.0 else big * (1.0 + (small / big) * (small / big)).sqrt

def fma (x y z : Float) : Float := x * y + z

def pow (x y : Float) : Float := x.pow y

def atan2 (y x : Float) : Float := Float.atan2 y x

def expm1 (x : Float) : Float :=
  if x.abs < 1e-5 then x + x * x / 2.0 + x * x * x / 6.0 else x.exp - 1.0

def log1p (x : Float) : Float :=
  if x.abs < 1e-5 then x - x * x / 2.0 + x * x * x / 3.0 else (1.0 + x).log

def erf (x : Float) : Float :=
  -- Abramowitz and Stegun 7.1.26 refined by symmetry
  let t := 1.0 / (1.0 + 0.3275911 * x.abs)
  let y := 1.0 - (((((1.061405429 * t - 1.453152027) * t) + 1.421413741) * t - 0.284496736) * t
    + 0.254829592) * t * (-(x * x)).exp
  if x < 0 then -y else y

def lgammaR (x : Float) : Float × Int :=
  -- Lanczos approximation
  let g := 7.0
  let coef : List Float := [0.99999999999980993, 676.5203681218851, -1259.1392167224028,
    771.32342877765313, -176.61502916214059, 12.507343278686905, -0.13857109526572012,
    9.9843695780195716e-6, 1.5056327351493116e-7]
  let lg (z : Float) : Float :=
    let z := z - 1.0
    let (a, _) := coef.tail.foldl (fun (acc, i) c => (acc + c / (z + i), i + 1.0))
      (coef.headD 0.0, 1.0)
    let t := z + g + 0.5
    0.5 * (2.0 * 3.141592653589793).log + (z + 0.5) * t.log - t + a.log
  if x < 0.5 then
    let s := (3.141592653589793 * x).sin
    (3.141592653589793.log - s.abs.log - lg (1.0 - x), if s < 0 then -1 else 1)
  else (lg x, 1)

def tgamma (x : Float) : Float :=
  let (l, s) := lgammaR x
  if s < 0 then -(l.exp) else l.exp

def unary? (name : String) : Option (Float → Float) :=
  match name with
  | "acos" => some Float.acos
  | "acosh" => some Float.acosh
  | "asin" => some Float.asin
  | "asinh" => some Float.asinh
  | "atan" => some Float.atan
  | "atanh" => some Float.atanh
  | "cbrt" => some Float.cbrt
  | "cos" => some Float.cos
  | "cosh" => some Float.cosh
  | "erf" => some erf
  | "erfc" => some fun x => 1.0 - erf x
  | "exp" => some Float.exp
  | "exp10" => some fun x => Float.pow 10.0 x
  | "exp2" => some Float.exp2
  | "expm1" => some expm1
  | "fabs" => some Float.abs
  | "gamma" => some fun x => (lgammaR x).1
  | "lgamma" => some fun x => (lgammaR x).1
  | "tgamma" => some tgamma
  | "log" => some Float.log
  | "log10" => some Float.log10
  | "log1p" => some log1p
  | "log2" => some Float.log2
  | "logb" => some logb
  | "significand" => some significand
  | "sin" => some Float.sin
  | "sinh" => some Float.sinh
  | "sqrt" => some Float.sqrt
  | "tan" => some Float.tan
  | "tanh" => some Float.tanh
  | "trunc" => some trunc
  | "nearbyint" | "rint" => some Float.round
  | "j0" | "j1" | "y0" | "y1" => some fun _ => nan
  | _ => none

end Math

end OpenApiGen.Jq
