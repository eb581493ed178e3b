/-
# Groups in patterns

What can stand after an opening parenthesis: the name of a group, or letters that switch the mode,
for the group or for all that follows in the group around it.
-/
import Conformance.Log.Pattern
import Conformance.Text.Letter
import Conformance.Text.Numeral

namespace Conformance.Log.Pattern

/-- What an opening parenthesis begins. -/
inductive Opening where
  /-- A group that is read in a mode, with its name if it has one. -/
  | group (mode : Mode) (name : Option (List Char))
  /-- No group, but a change of mode. -/
  | switch (mode : Mode)

/-- Whether a name can begin with a character. -/
def beginsName (c : Char) : Bool := c == '_' || Text.isLetter c

/-- Whether a name can go on with a character. -/
def continuesName (c : Char) : Bool :=
  ['_', '.', '[', ']'].contains c || Text.isLetter c || Text.isNumeral c

/-- Reads the name of a group and the sign after it. -/
def readName (chars : List Char) : Option (List Char × List Char) :=
  match chars.takeWhile (· != '>'), chars.dropWhile (· != '>') with
  | first :: others, _ :: rest =>
    if beginsName first && others.all continuesName then some (first :: others, rest) else none
  | _, _ => none

/-- The mode after a letter has been switched on or off.  Some letters matter only when a pattern is
held against a text. -/
def Mode.switched? (m : Mode) (on : Bool) : Char → Option Mode
  | 'i' => some { m with ignoresCase := on }
  | 'u' => some { m with characters := on }
  | 'x' => some { m with spaced := on }
  | 'm' | 's' | 'R' | 'U' => some m
  | _ => none

/-- Reads the letters that switch a mode, to the sign that ends them.  No letter comes twice.  A
hyphen switches the letters after it off, and there must be one. -/
def readSwitches (m : Mode) (seen : List Char) : List Char → Option (Opening × List Char)
  | [] => none
  | ':' :: rest => if seen.head? = some '-' then none else some (.group m none, rest)
  | ')' :: rest => if seen = [] ∨ seen.head? = some '-' then none else some (.switch m, rest)
  | c :: rest =>
    if seen.contains c then none
    else if c = '-' then readSwitches m ('-' :: seen) rest
    else match m.switched? (!seen.contains '-') c with
      | none => none
      | some m => readSwitches m (c :: seen) rest

/-- Reads a name that a group begins with. -/
def readNamedOpening (m : Mode) (chars : List Char) : Option (Opening × List Char) :=
  (readName chars).map fun (name, rest) => (.group m (some name), rest)

/-- Reads what follows an opening parenthesis. -/
def readOpening (m : Mode) (chars : List Char) : Option (Opening × List Char) :=
  match m.skip chars with
  | '?' :: 'P' :: '<' :: rest => readNamedOpening m rest
  | '?' :: '<' :: rest => readNamedOpening m rest
  | '?' :: rest => readSwitches m [] rest
  | chars => some (.group m none, chars)

end Conformance.Log.Pattern
