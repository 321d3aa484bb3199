/-!
The shortest decimal that reads back as a given double.
-/

namespace OpenApiGen.Decimal

/-- A finite double taken apart: its sign, and `m` and `e` with magnitude `m · 2^e`.
`closerBelow` marks the significands whose lower neighbour is half as far as the upper one. -/
structure Binary where
  negative : Bool
  mantissa : Nat
  exponent : Int
  closerBelow : Bool

/-- The sign, significand and exponent of a finite double; `none` for NaN and the infinities. -/
def Binary.ofFloat? (f : Float) : Option Binary :=
  let bits : Nat := f.toBits.toNat
  let negative := bits / Nat.pow 2 63 == 1
  let field : Nat := (bits / Nat.pow 2 52) % 2048
  let frac : Nat := bits % Nat.pow 2 52
  if field == 2047 then none
  else if field == 0 then some ⟨negative, frac, -1074, false⟩
  else some ⟨negative, frac + Nat.pow 2 52, (field : Int) - 1075, frac == 0 && field > 1⟩

def stripZeros (d : Nat) (q : Int) : Nat × Int :=
  if h : d ≠ 0 ∧ d % 10 = 0 then stripZeros (d / 10) (q + 1) else (d, q)
termination_by d
decreasing_by omega

def digitCount (n : Nat) : Nat := (toString n).length

/-- Shortest digits of `m · 2^e` for `m > 0`: a pair `(d, q)` with `d · 10^q` inside the
rounding interval, `d` with as few digits as possible and no trailing zero, and of two such the
one nearer the value. -/
def shortest (b : Binary) : Nat × Int :=
  let m := b.mantissa
  let e := b.exponent
  -- everything is scaled by 2^s so that value and half-gaps are whole numbers
  let s : Nat := if e < 2 then (2 - e).toNat else 0
  let top : Nat := (e + s).toNat
  let v : Nat := m * Nat.pow 2 top
  let gapHi : Nat := Nat.pow 2 (top - 1)
  let gapLo : Nat := if b.closerBelow then Nat.pow 2 (top - 2) else gapHi
  let even := m % 2 == 0
  let scaleBits : Nat := Nat.pow 2 s
  -- decimal exponent of the leading digit, read off an exact integer part
  let guard : Nat := 400
  let lead : Int := (digitCount (v * Nat.pow 10 guard / scaleBits) : Int) - 1 - guard
  let attempt (p : Nat) : Option (Nat × Int) :=
    let q : Int := lead - p + 1
    let t : Nat := Nat.pow 10 (-q).toNat
    let u : Nat := Nat.pow 10 q.toNat
    let target := v * t
    let low := (v - gapLo) * t
    let high := (v + gapHi) * t
    let cand (d : Nat) : Nat := d * u * scaleBits
    let inside (d : Nat) : Bool :=
      let c := cand d
      (low < c && c < high) || (even && (c == low || c == high))
    let dist (d : Nat) : Nat :=
      let c := cand d
      if c ≥ target then c - target else target - c
    let dLo := target / (u * scaleBits)
    let dHi := dLo + 1
    match inside dLo, inside dHi with
    | true, true =>
      if dist dHi < dist dLo || (dist dHi == dist dLo && dHi % 2 == 0) then some (dHi, q)
      else some (dLo, q)
    | true, false => some (dLo, q)
    | false, true => some (dHi, q)
    | false, false => none
  let found := (List.range 17).findSome? (fun i => attempt (i + 1))
  let (d, q) := found.getD (v / scaleBits, 0)
  stripZeros d q

/-- How a double is written: when to switch to scientific form (a test on the exponent of the
leading digit), whether a positive exponent carries `+`, and the texts of the non-finite values. -/
structure FloatStyle where
  scientific : Int → Bool
  plusExponent : Bool
  nan : String
  infinity : String

def zeros (n : Nat) : String := String.ofList (List.replicate n '0')

/-- Digits `ds` (no trailing zero) with leading exponent `lead`, written in the style. -/
def FloatStyle.place (st : FloatStyle) (ds : String) (lead : Int) : String :=
  let n := ds.length
  if st.scientific lead then
    let mant := if n > 1 then String.ofList (ds.toList.take 1) ++ "." ++ String.ofList (ds.toList.drop 1)
      else ds
    let sign := if lead < 0 then "-" else if st.plusExponent then "+" else ""
    mant ++ "e" ++ sign ++ toString lead.natAbs
  else if lead ≥ 0 then
    let whole := lead.toNat + 1
    if n ≤ whole then ds ++ zeros (whole - n) ++ ".0"
    else String.ofList (ds.toList.take whole) ++ "." ++ String.ofList (ds.toList.drop whole)
  else "0." ++ zeros (lead.natAbs - 1) ++ ds

/-- The text of a double in the style: shortest digits, `.0` on whole numbers. -/
def FloatStyle.render (st : FloatStyle) (f : Float) : String :=
  match Binary.ofFloat? f with
  | none => if f.isNaN then st.nan else if f < 0 then "-" ++ st.infinity else st.infinity
  | some b =>
    let sign := if b.negative then "-" else ""
    if b.mantissa == 0 then sign ++ "0.0"
    else
      let (d, q) := shortest b
      let ds := toString d
      sign ++ st.place ds (q + ds.length - 1)

/-- Doubles in JSON text: scientific below `1e-5` and from `1e16` on, a positive exponent
written with `+` (`1e+20`, `1e-7`). -/
def FloatStyle.json : FloatStyle :=
  ⟨fun lead => lead < -5 || lead ≥ 16, true, "null", "null"⟩

/-- Doubles in debugging output: scientific below `1e-4` and from `1e16` on, no `+`. -/
def FloatStyle.debug : FloatStyle :=
  ⟨fun lead => lead < -4 || lead ≥ 16, false, "NaN", "inf"⟩

def FloatStyle.plain : FloatStyle :=
  ⟨fun _ => false, false, "NaN", "inf"⟩

end OpenApiGen.Decimal
