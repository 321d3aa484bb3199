/-!
Decimal text read as the nearest double.
-/

namespace OpenApiGen.Decimal

/-- A double from its sign and the 63 bits of exponent field and fraction. -/
def floatOfBits (negative : Bool) (magnitude : Nat) : Float :=
  Float.ofBits (UInt64.ofNat ((if negative then Nat.pow 2 63 else 0) + magnitude))

def infinityBits : Nat := 2047 * Nat.pow 2 52

/-- `num / den` rounded to the nearest whole number, ties to even. -/
def divRound (num den : Nat) : Nat :=
  let q := num / den
  let r := num % den
  if 2 * r > den then q + 1
  else if 2 * r == den && q % 2 == 1 then q + 1
  else q

/-- The magnitude bits of the double nearest to `num / den` (both positive). -/
def nearestBits (num den : Nat) : Nat :=
  -- first guess of `k` with `2^52 ≤ num / (den · 2^k) < 2^53`
  let guess : Int := (Nat.log2 num : Int) - (Nat.log2 den : Int) - 52
  let quotientAt (k : Int) : Nat :=
    if k ≥ 0 then num / (den * Nat.pow 2 k.toNat) else num * Nat.pow 2 (-k).toNat / den
  -- the guess is off by at most one either way
  let k : Int :=
    if quotientAt guess ≥ Nat.pow 2 53 then guess + 1
    else if quotientAt guess < Nat.pow 2 52 then guess - 1
    else guess
  -- the subnormal range keeps the smallest exponent
  let k := max k (-1074)
  let q : Nat :=
    if k ≥ 0 then divRound num (den * Nat.pow 2 k.toNat) else divRound (num * Nat.pow 2 (-k).toNat) den
  -- rounding may carry into a 54th bit
  let (q, k) := if q ≥ Nat.pow 2 53 then (q / 2, k + 1) else (q, k)
  if q < Nat.pow 2 52 then q
  else
    let field := k + 1075
    if field ≥ 2047 then infinityBits
    else field.toNat * Nat.pow 2 52 + (q - Nat.pow 2 52)

def decimalDigits (n : Nat) : Nat := (Nat.toDigits 10 n).length

def nearestFloat (negative : Bool) (m : Nat) (e : Int) : Float :=
  if m == 0 then floatOfBits negative 0
  else
    let size : Int := (decimalDigits m : Int) + e
    if size > 310 then floatOfBits negative infinityBits
    else if size < -330 then floatOfBits negative 0
    else
      let (num, den) := if e ≥ 0 then (m * Nat.pow 10 e.toNat, 1) else (m, Nat.pow 10 (-e).toNat)
      floatOfBits negative (nearestBits num den)

def digitsValue (ds : List Char) : Nat :=
  ds.foldl (fun acc c => acc * 10 + (c.toNat - '0'.toNat)) 0

/-- An exponent read from its digits, held far beyond any that changes the result. -/
def exponentValue (ds : List Char) : Nat :=
  ds.foldl (fun acc c => min (acc * 10 + (c.toNat - '0'.toNat)) 100000000000) 0

/-- Reads a decimal in the general form: an optional sign, digits with an optional point (at least
one digit on either side), an optional exponent; or `inf`, `infinity`, `nan` in any case. -/
def parseFloat? (text : String) : Option Float :=
  let cs := text.toList
  let (negative, cs) := match cs with
    | '-' :: rest => (true, rest)
    | '+' :: rest => (false, rest)
    | _ => (false, cs)
  let word := String.ofList (cs.map Char.toLower)
  if word == "inf" || word == "infinity" then some (floatOfBits negative infinityBits)
  else if word == "nan" then some (0.0 / 0.0)
  else
    let whole := cs.takeWhile Char.isDigit
    let cs := cs.dropWhile Char.isDigit
    let (frac, cs) := match cs with
      | '.' :: rest => (rest.takeWhile Char.isDigit, rest.dropWhile Char.isDigit)
      | _ => ([], cs)
    if whole.isEmpty && frac.isEmpty then none
    else
      let exp : Option Int := match cs with
        | [] => some 0
        | c :: rest =>
          if c == 'e' || c == 'E' then
            let (eneg, ds) := match rest with
              | '-' :: r => (true, r)
              | '+' :: r => (false, r)
              | r => (false, r)
            if ds.isEmpty || !ds.all Char.isDigit then none
            else
              let v : Int := exponentValue ds
              some (if eneg then -v else v)
          else none
      exp.map fun e => nearestFloat negative (digitsValue (whole ++ frac)) (e - frac.length)

end OpenApiGen.Decimal
