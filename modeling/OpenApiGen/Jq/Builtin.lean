import OpenApiGen.Jq.Stream
import OpenApiGen.Jq.Coerce
import OpenApiGen.Jq.Time
import OpenApiGen.Jq.Format
import OpenApiGen.Jq.Json
import OpenApiGen.Jq.Math
import OpenApiGen.Text.Blank
import OpenApiGen.Jq.TextSearch
/-!
The built-in filters that take values: the input and the values of their arguments.
-/

namespace OpenApiGen.Jq

namespace Builtin

def trimLeft (s : String) : String := String.ofList (s.toList.dropWhile Text.isWhiteSpace)

def trimRight (s : String) : String :=
  String.ofList (s.toList.reverse.dropWhile Text.isWhiteSpace).reverse

def asciiMap (lower : Bool) (s : String) : String :=
  s.map fun c =>
    if lower && 'A' ≤ c && c ≤ 'Z' then Char.ofNat (c.toNat + 32)
    else if !lower && 'a' ≤ c && c ≤ 'z' then Char.ofNat (c.toNat - 32)
    else c

def codepoint (v : Value) : Except JqError Char :=
  match v with
  | .int i =>
    if i < 0 then .error (JqError.text "number too small to fit in target type")
    else if i > 0xFFFFFFFF then .error (JqError.text "number too large to fit in target type")
    else if i.toNat < 0xD800 || (0xDFFF < i.toNat && i.toNat < 0x110000) then .ok (Char.ofNat i.toNat)
    else .error (JqError.text ("cannot use " ++ toString i ++ " as character"))
  | v => .error (JqError.typeMismatch v "integer")

/-- Joins the texts of the elements of an array with a separator. -/
def join (v sep : Value) : Except Exn Value := do
  match v with
  | .arr [] => pure (.str "")
  | .arr (x :: rest) =>
    rest.foldlM (fun acc y => do
      let acc ← Value.math .add acc sep
      Value.math .add acc (.str (Format.text y))) (.str (Format.text x))
  | v => throw (.error (JqError.typeMismatch v "array"))

def parseNumber (s : String) : Option Value :=
  match JsonText.numberText s.toList with
  | .ok (text, []) => some (Value.ofNumberText text)
  | _ => none

def getPath (v p : Value) : Except JqError Value := do
  let keys ← asArray p
  keys.foldlM (fun acc k => acc.index k) v

def rangeFrom : Nat → Value → Value → Value → Bool → Outputs
  | 0, _, _, _, _ => .nil
  | fuel + 1, x, upto, step, up =>
    let more := if up then Value.compareValues x upto == .lt else Value.compareValues x upto == .gt
    if more then
      .cons (.ok x) fun _ =>
        match Value.math .add x step with
        | .ok y => rangeFrom fuel y upto step up
        | .error e => Outputs.raise e
    else .nil

/-- The numbers from `from` toward `upto` by `step`: up for a positive step, down for a negative
one, none for zero. -/
def range (from_ upto step : Value) : Outputs :=
  match Value.compareValues step (.int 0) with
  | .gt => rangeFrom (Nat.pow 2 40) from_ upto step true
  | .lt => rangeFrom (Nat.pow 2 40) from_ upto step false
  | .eq => .nil

def run (r : Except JqError Value) : Outputs := Outputs.ofResult r

def unaryMath (f : Float → Float) (v : Value) : Outputs :=
  run (do return .float (f (← asFloat v)))

def binaryMath (f : Float → Float → Float) (a b : Value) : Outputs :=
  run (do return .float (f (← asFloat a) (← asFloat b)))

/-- Applies a built-in filter to an input and the values of its arguments. -/
def apply (name : String) (input : Value) (args : List Value) : Outputs :=
  match name, args with
  | "empty", [] => .nil
  | "error", [] => Outputs.fail (.value input)
  | "error", [x] => Outputs.fail (.value x)
  | "length", [] => Outputs.ofExcept input.length
  | "utf8bytelength", [] => run (do return .int (← asString input).utf8ByteSize)
  | "type", [] => Outputs.pure (.str input.typeName)
  | "keys_unsorted", [] => run (.arr <$> input.keysUnsorted)
  | "has", [k] => run (.bool <$> input.has k)
  | "contains", [x] => Outputs.pure (.bool (input.contains x))
  | "tojson", [] => Outputs.pure (.str input.render)
  | "tostring", [] => Outputs.pure (.str (Format.text input))
  | "fromjson", [] => run (do
      let s ← asString input
      match readJson s with
      | .ok v => pure v
      | .error p => throw (JqError.text ("cannot parse " ++ s ++ " as JSON: " ++ p.message)))
  | "tonumber", [] =>
    if input.isNumber then Outputs.pure input
    else run (do
      let s ← asString input
      match parseNumber s with
      | some v => pure v
      | none => throw (JqError.text ("cannot parse " ++ s ++ " as number")))
  | "explode", [] => run (do return .arr ((← asString input).toList.map fun c => .int c.toNat))
  | "implode", [] => run (do
      let cs ← (← asArray input).mapM codepoint
      return .str (String.ofList cs))
  | "ltrimstr", [p] => run (do
      let s ← asString input
      let p ← asString p
      return if s.startsWith p then .str (String.ofList (s.toList.drop p.length)) else input)
  | "rtrimstr", [p] => run (do
      let s ← asString input
      let p ← asString p
      return if s.endsWith p && !p.isEmpty then
        .str (String.ofList (s.toList.take (s.length - p.length))) else input)
  | "startswith", [p] => run (do return .bool ((← asString input).startsWith (← asString p)))
  | "endswith", [p] => run (do return .bool ((← asString input).endsWith (← asString p)))
  | "ascii_downcase", [] => run (do return .str (asciiMap true (← asString input)))
  | "ascii_upcase", [] => run (do return .str (asciiMap false (← asString input)))
  | "trim", [] => run (do return .str (trimRight (trimLeft (← asString input))))
  | "ltrim", [] => run (do return .str (trimLeft (← asString input)))
  | "rtrim", [] => run (do return .str (trimRight (← asString input)))
  | "test", [re, flags] | "match", [re, flags] | "capture", [re, flags] | "scan", [re, flags]
  | "split", [re, flags] => TextSearch.apply name input re flags
  | "split", [sep] =>
    match input, sep with
    | .str s, .str t => Outputs.pure (.arr ((Value.splitText s t).map .str))
    | _, _ => Outputs.fail (JqError.text "split input and separator must be strings")
  | "join", [sep] => Outputs.ofExcept (join input sep)
  | "indices", [x] => run (do return .arr ((← input.indices x).map fun i => .int (Int.ofNat i)))
  | "reverse", [] => run (do return .arr (← asArray input).reverse)
  | "sort", [] => run (do
      return .arr ((← asArray input).mergeSort fun a b => Value.compareValues a b != .gt))
  | "floor", [] => run (roundWith Float.floor input)
  | "ceil", [] => run (roundWith Float.ceil input)
  | "round", [] => run (roundWith Float.round input)
  | "range", [a, b, c] => range a b c
  | "getpath", [p] => run (getPath input p)
  | "input", [] => Outputs.fail (JqError.text "no more input")
  | "inputs", [] => .nil
  | "debug", [] => Outputs.pure input
  | "stderr", [] => Outputs.pure input
  | "now", [] => Outputs.pure (.float 1700000000.0)
  | "pow", [a, b] => binaryMath Math.pow a b
  | "atan2", [a, b] => binaryMath Math.atan2 a b
  | "fmod", [a, b] => binaryMath Float.truncRem a b
  | "drem", [a, b] => binaryMath Math.remainder a b
  | "remainder", [a, b] => binaryMath Math.remainder a b
  | "copysign", [a, b] => binaryMath Math.copysign a b
  | "fdim", [a, b] => binaryMath Math.fdim a b
  | "fmax", [a, b] => binaryMath Math.fmax a b
  | "fmin", [a, b] => binaryMath Math.fmin a b
  | "hypot", [a, b] => binaryMath Math.hypot a b
  | "nextafter", [a, b] => binaryMath Math.nextafter a b
  | "nexttoward", [a, b] => binaryMath Math.nextafter a b
  | "ldexp", [a, b] => run (do return .float (Math.ldexp (← asFloat a) (← asInt b)))
  | "scalb", [a, b] => binaryMath Math.scalb a b
  | "scalbln", [a, b] => run (do return .float (Math.ldexp (← asFloat a) (← asInt b)))
  | "fma", [a, b, c] => run (do return .float (Math.fma (← asFloat a) (← asFloat b) (← asFloat c)))
  | "frexp", [] => run (do
      let (m, e) := Math.frexp (← asFloat input)
      return .arr [.float m, .int e])
  | "modf", [] => run (do
      let (f, i) := Math.modf (← asFloat input)
      return .arr [.float f, .float i])
  | "lgamma_r", [] => run (do
      let (g, s) := Math.lgammaR (← asFloat input)
      return .arr [.float g, .int s])
  | name, [] =>
    if name.startsWith "@" then run (Format.apply name input)
    else match Math.unary? name with
      | some f => unaryMath f input
      | none =>
        match Time.dispatch name input [] with
        | some r => Outputs.ofExcept r
        | none => Outputs.fail (JqError.text (name ++ " is not supported"))
  | name, args =>
    match Time.dispatch name input args with
    | some r => Outputs.ofExcept r
    | none => Outputs.fail (JqError.text (name ++ " is not supported"))

end Builtin

end OpenApiGen.Jq
