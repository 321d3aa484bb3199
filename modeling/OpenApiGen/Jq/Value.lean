import OpenApiGen.Json.Read
import OpenApiGen.Json.Print
import OpenApiGen.Text.Debug
import OpenApiGen.Decimal.Parse
/-!
Values of the jq language.
-/

namespace OpenApiGen.Jq

inductive Value where
  | null
  | bool (b : Bool)
  | int (n : Int)
  | float (x : Float)
  | num (text : String)
  | str (s : String)
  | arr (items : List Value)
  | obj (fields : List (String × Value))
  deriving Inhabited

namespace Value

def intMin : Int := -(Nat.pow 2 63)
def intMax : Int := Nat.pow 2 63 - 1

def fitsWord (n : Int) : Bool := intMin ≤ n && n ≤ intMax

/-- The double of a number text; a text that does not read gives `none`. -/
def parseDecimal (text : String) : Option Float := Decimal.parseFloat? text

/-- A kept number text as the value arithmetic uses: its double, or `null` if it does not read. -/
def ofDecimal (text : String) : Value :=
  match parseDecimal text with
  | some x => .float x
  | none => .null

/-- A number literal: a word integer when the text is one, else the kept text. -/
def ofNumberText (text : String) : Value :=
  let digits := match text.toList with
    | '-' :: rest => rest
    | '+' :: rest => rest
    | cs => cs
  if !digits.isEmpty && digits.all Char.isDigit then
    let n : Int := (String.ofList digits).toNat!
    let n := if text.startsWith "-" then -n else n
    if fitsWord n then .int n else .num text
  else .num text

mutual
/-- A JSON value as a jq value: integers that fit a word stay exact, other numbers keep the text
JSON gives them. -/
def ofJson : Json → Value
  | .null => .null
  | .bool b => .bool b
  | .number (.unsigned n) => if n ≤ intMax then .int n else .num (toString n)
  | .number (.signed n) => .int n
  | .number (.double f) => .num (Decimal.FloatStyle.json.render f)
  | .string s => .str s
  | .array items => .arr (ofJsonList items)
  | .object fields => .obj (ofJsonFields fields)

def ofJsonList : List Json → List Value
  | [] => []
  | v :: rest => ofJson v :: ofJsonList rest

def ofJsonFields : List (String × Json) → List (String × Value)
  | [] => []
  | (k, v) :: rest => (k, ofJson v) :: ofJsonFields rest
end

def hex4 (n : Nat) : String :=
  String.ofList ((List.range 4).reverse.map fun i => hexDigit (n / Nat.pow 16 i % 16))

/-- The escaped text of a string in a value's text: quote and backslash escaped, tab, newline and
carriage return by their letters, other control characters as `\u00xx`. -/
def quote (s : String) : String :=
  let esc (c : Char) : String :=
    if c == '"' then "\\\"" else if c == '\\' then "\\\\"
    else if c == '\n' then "\\n" else if c == '\t' then "\\t" else if c == '\r' then "\\r"
    else if c.toNat < 0x20 then "\\u" ++ hex4 c.toNat
    else String.singleton c
  "\"" ++ String.join (s.toList.map esc) ++ "\""

def floatText (x : Float) : String :=
  if x.isFinite then Decimal.FloatStyle.debug.render x else "null"

mutual
def render : Value → String
  | .null => "null"
  | .bool b => if b then "true" else "false"
  | .int n => toString n
  | .float x => floatText x
  | .num t => t
  | .str s => quote s
  | .arr items => "[" ++ renderItems items ++ "]"
  | .obj fields => "\x7b" ++ renderFields fields ++ "\x7d"

def renderItems : List Value → String
  | [] => ""
  | [v] => render v
  | v :: rest => render v ++ "," ++ renderItems rest

def renderFields : List (String × Value) → String
  | [] => ""
  | [(k, v)] => quote k ++ ":" ++ render v
  | (k, v) :: rest => quote k ++ ":" ++ render v ++ "," ++ renderFields rest
end

mutual
def debug : Value → String
  | .null => "Null"
  | .bool b => "Bool(" ++ (if b then "true" else "false") ++ ")"
  | .int n => "Int(" ++ toString n ++ ")"
  | .float x => "Float(" ++ Decimal.FloatStyle.debug.render x ++ ")"
  | .num t => "Num(" ++ Text.debugString t ++ ")"
  | .str s => "Str(" ++ Text.debugString s ++ ")"
  | .arr items => "Arr([" ++ debugItems items ++ "])"
  | .obj fields => "Obj(\x7b" ++ debugFields fields ++ "\x7d)"

def debugItems : List Value → String
  | [] => ""
  | [v] => debug v
  | v :: rest => debug v ++ ", " ++ debugItems rest

def debugFields : List (String × Value) → String
  | [] => ""
  | [(k, v)] => Text.debugString k ++ ": " ++ debug v
  | (k, v) :: rest => Text.debugString k ++ ": " ++ debug v ++ ", " ++ debugFields rest
end

def typeName : Value → String
  | .null => "null"
  | .bool _ => "boolean"
  | .int _ | .float _ | .num _ => "number"
  | .str _ => "string"
  | .arr _ => "array"
  | .obj _ => "object"

def truthy : Value → Bool
  | .null | .bool false => false
  | _ => true

def isNumber : Value → Bool
  | .int _ | .float _ | .num _ => true
  | _ => false

/-- A number as a double, if it is one (a kept text that does not read counts as none). -/
def toFloat? : Value → Option Float
  | .int n => some (Float.ofInt n)
  | .float x => some x
  | .num t => parseDecimal t
  | _ => none

def rank : Value → Nat
  | .null => 0
  | .bool _ => 1
  | .int _ | .float _ | .num _ => 2
  | .str _ => 3
  | .arr _ => 4
  | .obj _ => 5

/-- Doubles in order: two zeros are equal, not-a-number on the left is below, on the right
above. -/
def compareFloat (x y : Float) : Ordering :=
  if x == 0 && y == 0 then .eq
  else if x.isNaN then .lt
  else if y.isNaN then .gt
  else if x < y then .lt else if y < x then .gt else .eq

/-- Numbers in order: two word integers exactly, anything else as doubles. A kept text that does
not read stands for `null`. -/
def compareNumbers (a b : Value) : Ordering :=
  match a, b with
  | .int x, .int y => compare x y
  | _, _ =>
    match toFloat? a, toFloat? b with
    | some x, some y => compareFloat x y
    | none, some _ => .lt
    | some _, none => .gt
    | none, none => .eq

def insertByKey (kv : String × Value) : List (String × Value) → List (String × Value)
  | [] => [kv]
  | p :: rest => if kv.1 < p.1 then kv :: p :: rest else p :: insertByKey kv rest

def sortFields (fs : List (String × Value)) : List (String × Value) :=
  fs.foldr insertByKey []

def compareKeys : List String → List String → Ordering
  | [], [] => .eq
  | [], _ => .lt
  | _, [] => .gt
  | a :: as, b :: bs =>
    match compare a b with
    | .eq => compareKeys as bs
    | o => o

/-- Lists in the order `f` gives their elements, element by element, a prefix first. -/
def lexOrder {α : Type} (f : α → α → Ordering) : List α → List α → Ordering
  | [], [] => .eq
  | [], _ => .lt
  | _, [] => .gt
  | a :: as, b :: bs =>
    match f a b with
    | .eq => lexOrder f as bs
    | o => o

mutual
def depth : Value → Nat
  | .arr items => depthList items + 1
  | .obj fields => depthFields fields + 1
  | _ => 0

def depthList : List Value → Nat
  | [] => 0
  | v :: rest => max (depth v) (depthList rest)

def depthFields : List (String × Value) → Nat
  | [] => 0
  | (_, v) :: rest => max (depth v) (depthFields rest)
end

def compareAt : Nat → Value → Value → Ordering
  | 0, _, _ => .eq
  | fuel + 1, a, b =>
    match a, b with
    | .null, .null => .eq
    | .bool x, .bool y => compare x y
    | .str x, .str y => compare x y
    | .arr xs, .arr ys => lexOrder (compareAt fuel) xs ys
    | .obj xs, .obj ys =>
      let sx := sortFields xs
      let sy := sortFields ys
      match compareKeys (sx.map (·.1)) (sy.map (·.1)) with
      | .eq => lexOrder (compareAt fuel) (sx.map (·.2)) (sy.map (·.2))
      | o => o
    | a, b =>
      if a.isNumber && b.isNumber then compareNumbers a b else compare a.rank b.rank

def compareValues (a b : Value) : Ordering :=
  compareAt (max a.depth b.depth + 1) a b

def equal (a b : Value) : Bool := compareValues a b == .eq

instance : BEq Value := ⟨equal⟩

def field? (fs : List (String × Value)) (k : String) : Option Value :=
  (fs.find? (·.1 == k)).map (·.2)

def setField (fs : List (String × Value)) (k : String) (v : Value) : List (String × Value) :=
  if fs.any (·.1 == k) then fs.map (fun p => if p.1 == k then (k, v) else p) else fs ++ [(k, v)]

def swapRemoveField (fs : List (String × Value)) (k : String) : List (String × Value) :=
  match fs.findIdx? (·.1 == k) with
  | none => fs
  | some i =>
    if i + 1 == fs.length then fs.take i
    else
      match fs.getLast? with
      | some last => (fs.take i ++ [last] ++ fs.drop (i + 1)).take (fs.length - 1)
      | none => fs

def extendFields (xs ys : List (String × Value)) : List (String × Value) :=
  ys.foldl (fun acc (k, v) => setField acc k v) xs

end Value

end OpenApiGen.Jq
