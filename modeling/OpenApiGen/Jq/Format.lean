import OpenApiGen.Jq.Access
/-!
The `@` formats: a value written as text for a purpose.
-/

namespace OpenApiGen.Jq

namespace Format

/-- The text of a value: a string as it is, anything else as JSON. -/
def text : Value → String
  | .str s => s
  | v => v.render

def hexUpper (n : Nat) : Char :=
  if n < 10 then Char.ofNat ('0'.toNat + n) else Char.ofNat ('A'.toNat + n - 10)

def html (s : String) : String :=
  String.join (s.toList.map fun c =>
    if c == '<' then "&lt;" else if c == '>' then "&gt;" else if c == '&' then "&amp;"
    else if c == '\'' then "&#39;" else if c == '"' then "&quot;" else String.singleton c)

def isUnreserved (b : UInt8) : Bool :=
  let c := Char.ofNat b.toNat
  (c.isAlphanum && b.toNat < 128) || c == '-' || c == '_' || c == '.' || c == '~'

def uri (s : String) : String :=
  String.join (s.toUTF8.toList.map fun b =>
    if isUnreserved b then String.singleton (Char.ofNat b.toNat)
    else String.ofList ['%', hexUpper (b.toNat / 16), hexUpper (b.toNat % 16)])

def hexByte? (b : UInt8) : Option Nat :=
  let c := Char.ofNat b.toNat
  if c.isDigit then some (b.toNat - '0'.toNat)
  else if 'a' ≤ c && c ≤ 'f' then some (b.toNat - 'a'.toNat + 10)
  else if 'A' ≤ c && c ≤ 'F' then some (b.toNat - 'A'.toNat + 10)
  else none

def percentDecode : List UInt8 → List UInt8
  | [] => []
  | b :: rest =>
    match b == 37, rest with
    | true, h :: l :: more =>
      match hexByte? h, hexByte? l with
      | some x, some y => UInt8.ofNat (x * 16 + y) :: percentDecode more
      | _, _ => b :: percentDecode (h :: l :: more)
    | _, rest => b :: percentDecode rest
termination_by bs => bs.length
decreasing_by all_goals simp_wf <;> omega

/-- The length of the UTF-8 sequence a lead byte starts, if it can start one. -/
def utf8Width (b : Nat) : Option Nat :=
  if b < 0x80 then some 1
  else if 0xC2 ≤ b && b < 0xE0 then some 2
  else if 0xE0 ≤ b && b < 0xF0 then some 3
  else if 0xF0 ≤ b && b < 0xF5 then some 4
  else none

def isContinuation (b : Nat) : Bool := 0x80 ≤ b && b < 0xC0

def secondRange (lead : Nat) : Nat × Nat :=
  if lead == 0xE0 then (0xA0, 0xBF)
  else if lead == 0xED then (0x80, 0x9F)
  else if lead == 0xF0 then (0x90, 0xBF)
  else if lead == 0xF4 then (0x80, 0x8F)
  else (0x80, 0xBF)

/-- Bytes as text, each invalid sequence replaced by `U+FFFD`, the longest valid prefix of a
broken sequence counting as one. -/
def utf8Lossy : Nat → List Nat → List Char
  | 0, _ => []
  | _ + 1, [] => []
  | fuel + 1, b :: rest =>
    match utf8Width b with
    | none => Char.ofNat 0xFFFD :: utf8Lossy fuel rest
    | some 1 => Char.ofNat b :: utf8Lossy fuel rest
    | some w =>
      let (lo, hi) := secondRange b
      let cont := rest.take (w - 1)
      let okSecond := match cont with
        | c :: _ => lo ≤ c && c ≤ hi
        | [] => false
      let goodTail := (cont.drop 1).takeWhile isContinuation
      let valid := if okSecond then 1 + goodTail.length else 0
      if okSecond && valid == w - 1 then
        let value := cont.foldl (fun acc c => acc * 64 + (c - 0x80))
          (b % (if w == 2 then 32 else if w == 3 then 16 else 8))
        Char.ofNat value :: utf8Lossy fuel (rest.drop (w - 1))
      else Char.ofNat 0xFFFD :: utf8Lossy fuel (rest.drop valid)

def ofBytesLossy (bs : List UInt8) : String :=
  String.ofList (utf8Lossy (bs.length + 1) (bs.map UInt8.toNat))

def uriDecode (s : String) : String := ofBytesLossy (percentDecode s.toUTF8.toList)

def alphabet : List Char :=
  "ABCDEFGHIJKLMNOPQRSTUVWXYZabcdefghijklmnopqrstuvwxyz0123456789+/".toList

def digit64 (n : Nat) : Char := alphabet.getD n '='

def base64Bytes : List Nat → List Char
  | [] => []
  | [a] => [digit64 (a / 4), digit64 (a % 4 * 16), '=', '=']
  | [a, b] => [digit64 (a / 4), digit64 (a % 4 * 16 + b / 16), digit64 (b % 16 * 4), '=']
  | a :: b :: c :: rest =>
    [digit64 (a / 4), digit64 (a % 4 * 16 + b / 16), digit64 (b % 16 * 4 + c / 64),
      digit64 (c % 64)] ++ base64Bytes rest

def base64 (s : String) : String := String.ofList (base64Bytes (s.toUTF8.toList.map UInt8.toNat))

def value64? (c : Nat) : Option Nat := alphabet.findIdx? (·.toNat == c)

def decodeGroups : List Nat → List Nat
  | a :: b :: c :: d :: rest =>
    [(a * 4 + b / 16) % 256, (b * 16 + c / 4) % 256, (c * 64 + d) % 256] ++ decodeGroups rest
  | [a, b, c] => [(a * 4 + b / 16) % 256, (b * 16 + c / 4) % 256]
  | [a, b] => [(a * 4 + b / 16) % 256]
  | _ => []

def base64Decode (s : String) : Except String String := do
  let bytes := s.toUTF8.toList.map UInt8.toNat
  let symbols := bytes.takeWhile (· != 61)
  let padding := bytes.drop symbols.length
  let n := symbols.length
  -- the first byte that is no digit
  match (List.range n).find? (fun i => (value64? (symbols.getD i 0)).isNone) with
  | some i => throw ("Invalid symbol " ++ toString (symbols.getD i 0) ++ ", offset " ++
      toString i ++ ".")
  | none => pure ()
  match (List.range padding.length).find? (fun i => padding.getD i 0 != 61) with
  | some _ => throw ("Invalid symbol 61, offset " ++ toString n ++ ".")
  | none => pure ()
  if n % 4 == 1 then throw ("Invalid symbol 61, offset " ++ toString n ++ ".")
  if padding.length != (4 - n % 4) % 4 then throw "Invalid padding"
  let values := symbols.filterMap value64?
  let lastOk := match n % 4, values.getLast? with
    | 2, some v => v % 16 == 0
    | 3, some v => v % 4 == 0
    | _, _ => true
  if !lastOk then
    throw ("Invalid last symbol " ++ toString (symbols.getD (n - 1) 0) ++ ", offset " ++
      toString (n - 1) ++ ".")
  return ofBytesLossy ((decodeGroups values).map UInt8.ofNat)

def csvField (v : Value) : Except JqError String :=
  match v with
  | .str s => .ok ("\"" ++ String.join (s.toList.map fun c =>
      if c == '"' then "\"\"" else String.singleton c) ++ "\"")
  | .null => .ok ""
  | .arr _ | .obj _ => .error (JqError.text (v.typeName ++ " (" ++ v.render ++
      ") is not valid in a csv row"))
  | v => .ok v.render

def tsvField (v : Value) : Except JqError String :=
  match v with
  | .str s => .ok (String.join (s.toList.map fun c =>
      if c == '\\' then "\\\\" else if c == '\t' then "\\t" else if c == '\n' then "\\n"
      else if c == '\r' then "\\r" else String.singleton c))
  | .null => .ok ""
  | .arr _ | .obj _ => .error (JqError.text (v.typeName ++ " (" ++ v.render ++
      ") is not valid in a tsv row"))
  | v => .ok v.render

def shWord (v : Value) : Except JqError String :=
  match v with
  | .str s => .ok ("'" ++ String.join (s.toList.map fun c =>
      if c == '\'' then "'\\''" else String.singleton c) ++ "'")
  | .arr _ | .obj _ => .error (JqError.text (v.typeName ++ " (" ++ v.render ++
      ") can not be escaped for shell"))
  | v => .ok v.render

def row (v : Value) (field : Value → Except JqError String) (sep : String) :
    Except JqError String := do
  let items ← v.children
  let fs ← items.mapM field
  return sep.intercalate fs

def apply (name : String) (v : Value) : Except JqError Value :=
  match name with
  | "@text" => .ok (.str (text v))
  | "@json" => .ok (.str v.render)
  | "@html" => .ok (.str (html (text v)))
  | "@uri" => .ok (.str (uri (text v)))
  | "@urid" => .ok (.str (uriDecode (text v)))
  | "@csv" => .str <$> row v csvField ","
  | "@tsv" => .str <$> row v tsvField "\t"
  | "@sh" =>
    match v with
    | .arr items => do
      let ws ← items.mapM shWord
      return .str (" ".intercalate ws)
    | v => .str <$> shWord v
  | "@base64" => .ok (.str (base64 (text v)))
  | "@base64d" =>
    match base64Decode (text v) with
    | .ok s => .ok (.str s)
    | .error m => .error (JqError.text m)
  | _ => .error (JqError.text (name ++ " is not a valid format"))

end Format

end OpenApiGen.Jq
