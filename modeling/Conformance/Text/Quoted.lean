/-
# Quoted text

A text in double quotes on one line, with every character visible: quotes and backslashes are
escaped, the common controls have short escapes, and any other hidden character is written as its
code point in hexadecimal.
-/
import Conformance.Text.Hidden

namespace Conformance.Text

/-- A character as it stands in a quoted text. -/
def quoteChar (c : Char) : String :=
  if c = '"' then "\\\""
  else if c = '\\' then "\\\\"
  else if c = '\n' then "\\n"
  else if c = '\r' then "\\r"
  else if c = '\t' then "\\t"
  else if c.toNat = 0 then "\\0"
  else if isHidden c then "\\u\x7b" ++ String.ofList (Nat.toDigits 16 c.toNat) ++ "\x7d"
  else c.toString

/-- A text in quoted form. -/
def quote (text : String) : String :=
  "\"" ++ String.join (text.toList.map quoteChar) ++ "\""

/-- An optional value, given how a value is written. -/
def showOption {α : Type} (write : α → String) : Option α → String
  | none => "None"
  | some value => "Some(" ++ write value ++ ")"

end Conformance.Text
