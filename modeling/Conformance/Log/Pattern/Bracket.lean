/-
# Classes in brackets

A class lists characters, ranges and other classes between brackets.  Two hyphens, ampersands or
tildes combine all that stands before them with what follows.  Of a class that can be used only the
depth is kept: how many parts are around one another in it.
-/
import Conformance.Log.Pattern.Symbol

namespace Conformance.Log.Pattern

/-- The depth of parts in a row: a single one has no row around it. -/
def rowDepth : List Nat → Nat
  | [] => 0
  | [depth] => depth
  | depths => depths.foldl max 0 + 1

/-- A class whose end has not been read. -/
structure OpenClass where
  /-- The depth of what stands before the last sign that combines. -/
  left : Option Nat := none
  /-- The depths of the members since then. -/
  members : List Nat := []
  /-- Whether only hyphens have been read. -/
  fresh : Bool := true

namespace OpenClass

/-- The depth of what has been read. -/
def depth (s : OpenClass) : Nat :=
  match s.left with
  | none => rowDepth s.members
  | some left => max left (rowDepth s.members) + 1

/-- The class with one more member. -/
def add (s : OpenClass) (depth : Nat) : OpenClass :=
  { s with members := depth :: s.members, fresh := false }

/-- The class with one more hyphen at its start. -/
def addHyphen (s : OpenClass) : OpenClass := { s with members := 0 :: s.members }

/-- The class after a sign that combines. -/
def combine (s : OpenClass) : OpenClass := ⟨some s.depth, [], false⟩

end OpenClass

/-- The names of the ASCII classes. -/
def classNames : List String :=
  ["alnum", "alpha", "ascii", "blank", "cntrl", "digit", "graph", "lower", "print", "punct",
   "space", "upper", "word", "xdigit"]

/-- Reads an ASCII class by its name, from after the opening bracket, and whether all others are
meant. -/
def readNamedClass : List Char → Option (Bool × List Char)
  | ':' :: chars =>
    let (negated, chars) := match chars with
      | '^' :: rest => (true, rest)
      | _ => (false, chars)
    match chars.dropWhile (· != ':') with
    | ':' :: ']' :: rest =>
      if classNames.contains (String.ofList (chars.takeWhile (· != ':'))) then some (negated, rest)
      else none
    | _ => none
  | _ => none

/-- Whether an ASCII class can stand in a mode. -/
def Mode.takesNamedClass (m : Mode) (negated : Bool) : Bool :=
  m.takesCharacters || (!m.characters && !negated)

/-- Reads one symbol in brackets. -/
def readInBrackets (m : Mode) : List Char → Option (Symbol × List Char)
  | [] => none
  | '\\' :: rest => readEscape m rest
  | c :: rest => some (.literal ⟨c, false⟩, rest)

/-- Whether a symbol can be a member of a class. -/
def Symbol.isMember (s : Symbol) (m : Mode) : Bool :=
  match s with
  | .literal l => l.fitsInBrackets m
  | .shorthand negated => m.takesShorthand negated
  | .edge | .wordEdge => false

/-- Whether two symbols are the ends of a range. -/
def Symbol.isRange (first last : Symbol) (m : Mode) : Bool :=
  match first, last with
  | .literal a, .literal b => a.char ≤ b.char && a.fitsInBrackets m && b.fitsInBrackets m
  | _, _ => false

/-- Reads a symbol or a range, and leaves the rest. -/
def readMember (m : Mode) (chars : List Char) : Option (List Char) :=
  match readInBrackets m chars with
  | none => none
  | some (first, rest) =>
    let rest := m.skip rest
    match rest with
    | '-' :: after =>
      if m.peek after ∈ [some ']', some '-'] then
        if first.isMember m then some rest else none
      else match readInBrackets m (m.skip after) with
        | none => none
        | some (last, rest) => if first.isRange last m then some rest else none
    | _ => if first.isMember m then some rest else none

/-- Reads the start of a class, from after the opening bracket. -/
def openClass (m : Mode) (chars : List Char) : Option (List Char) :=
  match m.skip chars with
  | '^' :: rest => if m.characters then some rest else none
  | chars => some chars

/-- Reads a class to its closing bracket, and gives its depth.  The classes around it come in
`outer`, the nearest first, and every member has at least a character. -/
def readClass (m : Mode) :
    Nat → List OpenClass → OpenClass → List Char → Option (Nat × List Char)
  | 0, _, _, _ => none
  | fuel + 1, outer, inner, chars =>
    match m.skip chars with
    | [] => none
    | '[' :: rest =>
      match readNamedClass rest with
      | some (negated, rest) =>
        if m.takesNamedClass negated then readClass m fuel outer (inner.add 0) rest else none
      | none =>
        match openClass m rest with
        | none => none
        | some rest => readClass m fuel ({ inner with fresh := false } :: outer) {} rest
    | ']' :: rest =>
      if inner.fresh && inner.members.isEmpty then
        if Literal.fitsInBrackets ⟨']', false⟩ m then readClass m fuel outer (inner.add 0) rest
        else none
      else match outer with
        | [] => some (inner.depth + 1, rest)
        | around :: outer => readClass m fuel outer (around.add (inner.depth + 1)) rest
    | c :: rest =>
      if inner.fresh && c == '-' then
        if Literal.fitsInBrackets ⟨'-', false⟩ m then
          readClass m fuel outer inner.addHyphen rest
        else none
      else if c ∈ ['&', '-', '~'] ∧ rest.head? = some c then
        readClass m fuel outer inner.combine rest.tail
      else match readMember m (c :: rest) with
        | none => none
        | some rest => readClass m fuel outer (inner.add 0) rest

end Conformance.Log.Pattern
