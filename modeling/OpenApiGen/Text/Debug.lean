import OpenApiGen.Text.Printable
import OpenApiGen.Text.GraphemeExtend
/-!
Debugging text of strings and characters: the form a value takes in diagnostics, between double
quotes, with `\0 \t \r \n \\ \"` escaped by a backslash and every character that is not printable
written as `\u{hex}`.
-/

namespace OpenApiGen.Text

def hexString (n : Nat) : String :=
  String.ofList (Nat.toDigits 16 n)

def debugChar (c : Char) : String :=
  if c.toNat == 0 then "\\0"
  else if c == '\t' then "\\t"
  else if c == '\r' then "\\r"
  else if c == '\n' then "\\n"
  else if c == '\\' then "\\\\"
  else if c == '"' then "\\\""
  else if (c.toNat > 0x2FF && isGraphemeExtend c) || !isPrintable c then "\\u\x7b" ++ hexString c.toNat ++ "\x7d"
  else String.singleton c

def debugString (s : String) : String :=
  "\"" ++ String.join (s.toList.map debugChar) ++ "\""

end OpenApiGen.Text
