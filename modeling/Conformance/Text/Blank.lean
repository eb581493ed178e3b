/-
# Blanks

Blanks are the characters of the Unicode property White_Space.  Trimming takes them off the ends
of a text.
-/

namespace Conformance.Text

/-- Whether a character is a blank. -/
def isBlank (c : Char) : Bool :=
  let n := c.toNat
  (0x09 ≤ n && n ≤ 0x0d) || n == 0x20 || n == 0x85 || n == 0xa0 || n == 0x1680
    || (0x2000 ≤ n && n ≤ 0x200a) || n == 0x2028 || n == 0x2029 || n == 0x202f || n == 0x205f
    || n == 0x3000

/-- A text without the characters at its end that satisfy `p`. -/
def dropEndWhile (p : Char → Bool) (text : String) : String :=
  String.ofList (text.toList.reverse.dropWhile p).reverse

/-- A text without the characters at its start that satisfy `p`. -/
def dropStartWhile (p : Char → Bool) (text : String) : String :=
  String.ofList (text.toList.dropWhile p)

/-- A text without blanks at its end. -/
def trimEnd (text : String) : String := dropEndWhile isBlank text

/-- A text without blanks at either end. -/
def trim (text : String) : String := dropStartWhile isBlank (trimEnd text)

end Conformance.Text
