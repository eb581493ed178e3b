/-
# Reading patterns

A pattern is read part by part.  `Reading.step` reads one part, and `check` says whether a whole
text can be used.
-/
import Conformance.Log.Pattern.Bracket
import Conformance.Log.Pattern.Group

namespace Conformance.Log.Pattern

/-- What matters about a part that has been read. -/
structure Part where
  /-- How many parts are around one another in it. -/
  depth : Nat
  /-- Whether it can be repeated. -/
  repeatable : Bool := true

/-- A group whose end has not been read, or the whole pattern. -/
structure Body where
  /-- The mode for what follows. -/
  mode : Mode
  /-- The depths of the alternatives that have been read. -/
  alternatives : List Nat := []
  /-- The parts of the last alternative, the latest first. -/
  parts : List Part := []

namespace Body

/-- The body with one more part. -/
def add (b : Body) (part : Part) : Body := { b with parts := part :: b.parts }

/-- The body with a new alternative. -/
def branch (b : Body) : Body :=
  { b with alternatives := rowDepth (b.parts.map Part.depth) :: b.alternatives, parts := [] }

/-- The depth of what has been read. -/
def depth (b : Body) : Nat := rowDepth b.branch.alternatives

end Body

/-- How far a pattern has been read. -/
structure Reading where
  /-- The groups around the place, the nearest first. -/
  outer : List Body := []
  /-- The group at the place. -/
  body : Body := ⟨{}, [], []⟩
  /-- The names of groups that have been given. -/
  names : List (List Char) := []
  /-- Whether the edge of a word of any script is asked for. -/
  asksWordEdge : Bool := false

namespace Reading

/-- The reading with one more part. -/
def add (r : Reading) (part : Part) : Reading := { r with body := r.body.add part }

/-- Takes in a symbol, if it can stand in the mode. -/
def addSymbol? (r : Reading) (s : Symbol) : Option Reading :=
  let m := r.body.mode
  match s with
  | .literal l => if l.fits m then some (r.add ⟨0, true⟩) else none
  | .shorthand negated => if m.takesShorthand negated then some (r.add ⟨0, true⟩) else none
  | .edge => some (r.add ⟨0, true⟩)
  | .wordEdge =>
    some { r.add ⟨0, true⟩ with asksWordEdge := r.asksWordEdge || m.characters }

/-- Takes in what an opening parenthesis begins. -/
def enter? (r : Reading) : Opening → Option Reading
  | .switch mode => some (({ r with body := { r.body with mode } } : Reading).add ⟨0, false⟩)
  | .group mode none => some { r with outer := r.body :: r.outer, body := ⟨mode, [], []⟩ }
  | .group mode (some name) =>
    if r.names.contains name then none
    else some { r with
      outer := r.body :: r.outer, body := ⟨mode, [], []⟩, names := name :: r.names }

/-- Leaves a group. -/
def leave? (r : Reading) : Option Reading :=
  match r.outer with
  | [] => none
  | around :: outer => some { r with outer, body := around.add ⟨r.body.depth + 1, true⟩ }

/-- Repeats the last part. -/
def repeat? (r : Reading) : Option Reading :=
  match r.body.parts with
  | [] => none
  | part :: parts =>
    if part.repeatable then
      some { r with body := { r.body with parts := ⟨part.depth + 1, true⟩ :: parts } }
    else none

/-- Reads one part.  A brace would have to be closed, but the field that holds a pattern ends with
the first brace that closes. -/
def step (r : Reading) (c : Char) (rest : List Char) : Option (Reading × List Char) :=
  let m := r.body.mode
  match c with
  | '(' =>
    match readOpening m rest with
    | none => none
    | some (opening, rest) => (r.enter? opening).map (·, rest)
  | ')' => r.leave?.map (·, rest)
  | '|' => some ({ r with body := r.body.branch }, rest)
  | '[' =>
    match openClass m rest with
    | none => none
    | some rest =>
      match readClass m (rest.length + 1) [] {} rest with
      | none => none
      | some (depth, rest) => some (r.add ⟨depth, true⟩, rest)
  | '?' | '*' | '+' =>
    let rest := match rest with
      | '?' :: rest => rest
      | _ => rest
    r.repeat?.map (·, rest)
  | '\x7b' => none
  | '\\' =>
    match readEscape m rest with
    | none => none
    | some (symbol, rest) => (r.addSymbol? symbol).map (·, rest)
  | '.' => if m.characters then some (r.add ⟨0, true⟩, rest) else none
  | '^' | '$' => some (r.add ⟨0, true⟩, rest)
  | c => (r.addSymbol? (.literal ⟨c, false⟩)).map (·, rest)

/-- Reads all parts; every one has at least a character. -/
def run : Nat → Reading → List Char → Option Reading
  | 0, _, _ => none
  | fuel + 1, r, chars =>
    match r.body.mode.skip chars with
    | [] => if r.outer.isEmpty then some r else none
    | c :: rest =>
      match r.step c rest with
      | none => none
      | some (r, rest) => run fuel r rest

end Reading

/-- How many parts may be around one another. -/
def maxDepth : Nat := 250

/-- Whether a text is a pattern that can be used. -/
def check (text : String) : Except Fault Unit :=
  match Reading.run (text.length + 1) {} text.toList with
  | none => .error .unreadable
  | some r =>
    if maxDepth < r.body.depth then .error .unreadable
    else if r.asksWordEdge then .error .wordEdge
    else .ok ()

end Conformance.Log.Pattern
