/-
# Decimal numbers

Words are written with an optional minus sign and no leading zeros.  Natural numbers are read
from digits alone, with leading zeros allowed.
-/

namespace Conformance.Text

/-- A word in decimal. -/
def decimal (word : Int32) : String :=
  if word < 0 then "-" ++ word.toInt.natAbs.repr else word.toInt.natAbs.repr

/-- The number that a list of digits stands for; there must be at least one. -/
def readDigits? (digits : List Char) : Option Nat :=
  if digits ≠ [] ∧ digits.all Char.isDigit then some (Nat.ofDigitChars 10 digits 0) else none

end Conformance.Text
