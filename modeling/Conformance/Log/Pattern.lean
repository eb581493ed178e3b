/-
# Patterns

The value that a log directive asks for can be given by a pattern, which is a regular expression.
No line has a value to hold against one, so a pattern is read only to see whether it can be used.
That depends on its form, on how deeply its parts are nested, and on whether it asks for the edge of
a word.

Every part of a pattern is read in a mode.  In the usual one a pattern is about characters.  Tables
of characters are not at hand, so nothing can be said there about the case of a character or about
classes such as the digits of all scripts.  In the other mode a pattern is about bytes, and then it
must not match a byte beyond ASCII by itself.
-/
import Conformance.Text.Blank

namespace Conformance.Log.Pattern

/-- Why a pattern cannot be used. -/
inductive Fault where
  /-- It has not the form of one, is nested too deeply, or needs tables of characters. -/
  | unreadable
  /-- It asks for the edge of a word of any script. -/
  | wordEdge
  deriving DecidableEq

/-- The text shown for a fault. -/
def Fault.message : Fault → String
  | unreadable => "error building NFA"
  | wordEdge =>
    "unsupported regex feature for DFAs: cannot build DFAs for regexes with Unicode word "
      ++ "boundaries; switch to ASCII word boundaries, or heuristically enable Unicode word "
      ++ "boundaries or use a different regex engine"

/-- How a part of a pattern is read. -/
structure Mode where
  /-- Whether blanks and comments are passed over. -/
  spaced : Bool := false
  /-- Whether case does not matter. -/
  ignoresCase : Bool := false
  /-- Whether the part is about characters, and not about bytes. -/
  characters : Bool := true
  deriving DecidableEq

/-- What is left after blanks and comments.  A comment goes from a number sign to the end of its
line. -/
def passBlanks (inComment : Bool) : List Char → List Char
  | [] => []
  | c :: rest =>
    if inComment then passBlanks (c != '\n') rest
    else if Text.isBlank c then passBlanks false rest
    else if c = '#' then passBlanks true rest
    else c :: rest

namespace Mode

/-- What is left to read in a mode. -/
def skip (m : Mode) (chars : List Char) : List Char :=
  if m.spaced then passBlanks false chars else chars

/-- The character that tells whether a hyphen stands for itself, out of those that follow it.
Blanks are passed over where the mode says so, and the sign that begins a comment, but not the
comment; if nothing else follows, the first character counts. -/
def peek (m : Mode) (chars : List Char) : Option Char :=
  if m.spaced then
    let tail := chars.dropWhile Text.isBlank
    let tail := match tail with
      | '#' :: comment => comment.dropWhile Text.isBlank
      | _ => tail
    tail.head? <|> chars.head?
  else chars.head?

/-- Whether characters can stand in a pattern that is about characters. -/
def takesCharacters (m : Mode) : Bool := m.characters && !m.ignoresCase

end Mode

end Conformance.Log.Pattern
