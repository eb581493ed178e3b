/-
# JSON strings

A string of the JSON format: in double quotes, with quotes, backslashes and the controls below
U+0020 escaped and every other character as it is.
-/

namespace Conformance.Text

/-- The escape of a control without a short form: four hexadecimal digits. -/
def jsonCodeEscape (n : Nat) : String :=
  "\\u00" ++ String.ofList [Nat.digitChar (n / 16), Nat.digitChar (n % 16)]

/-- A character as it stands in a JSON string. -/
def jsonChar (c : Char) : String :=
  if c = '"' then "\\\""
  else if c = '\\' then "\\\\"
  else if c.toNat = 0x08 then "\\b"
  else if c.toNat = 0x09 then "\\t"
  else if c.toNat = 0x0a then "\\n"
  else if c.toNat = 0x0c then "\\f"
  else if c.toNat = 0x0d then "\\r"
  else if c.toNat < 0x20 then jsonCodeEscape c.toNat
  else c.toString

/-- A text as a JSON string. -/
def jsonString (text : String) : String :=
  "\"" ++ String.join (text.toList.map jsonChar) ++ "\""

end Conformance.Text
