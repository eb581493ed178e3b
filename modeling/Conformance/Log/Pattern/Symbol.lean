/-
# Symbols of patterns

The smallest parts of a pattern that stand for something.  Those with a backslash are read here.
-/
import Conformance.Log.Pattern

namespace Conformance.Log.Pattern

/-- A character in a pattern. -/
structure Literal where
  /-- The character. -/
  char : Char
  /-- Whether it was given as a byte, by two digits. -/
  isByte : Bool := false
  deriving DecidableEq

namespace Literal

/-- Whether a literal can stand by itself in a mode. -/
def fits (l : Literal) (m : Mode) : Bool :=
  m.takesCharacters || (!m.characters && (!l.isByte || l.char.toNat < 0x80))

/-- Whether a literal can stand in brackets in a mode. -/
def fitsInBrackets (l : Literal) (m : Mode) : Bool :=
  m.takesCharacters || (!m.characters && l.char.toNat < 0x80)

end Literal

/-- The smallest parts of a pattern. -/
inductive Symbol where
  /-- A character. -/
  | literal (l : Literal)
  /-- The digits, blanks, or characters of words, or all others. -/
  | shorthand (negated : Bool)
  /-- The start or the end of the text or of a line. -/
  | edge
  /-- The edge of a word, or every other place. -/
  | wordEdge
  deriving DecidableEq

/-- The value of a hexadecimal digit. -/
def hexDigit? (c : Char) : Option Nat :=
  if c.isDigit then some (c.toNat - '0'.toNat)
  else if 'a' ≤ c ∧ c ≤ 'f' then some (c.toNat - 'a'.toNat + 10)
  else if 'A' ≤ c ∧ c ≤ 'F' then some (c.toNat - 'A'.toNat + 10)
  else none

/-- Reads a given number of hexadecimal digits after a number. -/
def readHex (m : Mode) : Nat → Nat → List Char → Option (Nat × List Char)
  | 0, value, chars => some (value, chars)
  | count + 1, value, chars =>
    match m.skip chars with
    | [] => none
    | c :: rest =>
      match hexDigit? c with
      | none => none
      | some digit => readHex m count (value * 16 + digit) rest

/-- Reads a character that is given by a number of digits. -/
def readNumbered (m : Mode) (digits : Nat) (chars : List Char) : Option (Symbol × List Char) :=
  match readHex m digits 0 chars with
  | none => none
  | some (value, rest) =>
    if value.isValidChar then some (.literal ⟨.ofNat value, digits == 2⟩, rest) else none

/-- The control character that a letter stands for after a backslash. -/
def control? : Char → Option Char
  | 'a' => some '\x07'
  | 'f' => some '\x0c'
  | 'n' => some '\n'
  | 'r' => some '\r'
  | 't' => some '\t'
  | 'v' => some '\x0b'
  | _ => none

/-- Whether a character stands for itself after a backslash: every ASCII character does but letters
and digits. -/
def isEscapable (c : Char) : Bool := c.toNat < 0x80 && !c.isAlphanum

/-- Reads what follows a backslash. -/
def readEscape (m : Mode) : List Char → Option (Symbol × List Char)
  | [] => none
  | 'x' :: rest => readNumbered m 2 rest
  | 'u' :: rest => readNumbered m 4 rest
  | 'U' :: rest => readNumbered m 8 rest
  | c :: rest =>
    if c ∈ ['d', 's', 'w'] then some (.shorthand false, rest)
    else if c ∈ ['D', 'S', 'W'] then some (.shorthand true, rest)
    else if c ∈ ['A', 'z'] then some (.edge, rest)
    else if c ∈ ['b', 'B', '<', '>'] then some (.wordEdge, rest)
    else match control? c with
      | some control => some (.literal ⟨control, false⟩, rest)
      | none => if isEscapable c then some (.literal ⟨c, false⟩, rest) else none

/-- Whether the classes with a letter for a name can stand in a mode. -/
def Mode.takesShorthand (m : Mode) (negated : Bool) : Bool := !m.characters && !negated

end Conformance.Log.Pattern
