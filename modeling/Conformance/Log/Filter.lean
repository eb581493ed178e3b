/-
# Log filters

A filter is read from a list of directives with commas between them.  Of the directives that apply
to a line the one with the longest target decides, of those the one that demands a field, of those
the one whose field has the greater name, and of two with the same demands the later.  The last
directive of every filter lets warnings and errors through, so a level that stands alone has no
effect.  Texts that are no directives are passed over, with a notice.
-/
import Conformance.Environment
import Conformance.Log.Directive

namespace Conformance.Log

namespace Directive

/-- Whether a directive applies to a line.  No line is in a span, and the value of a field is known
only in spans, so a directive that asks for either applies to none. -/
def appliesTo (d : Directive) (l : Line) : Bool :=
  d.span.isNone
    && (d.target.all fun target => target.toList.isPrefixOf l.target.toList)
    && (d.field.all fun demand => demand.value.isNone && l.fieldNames.contains demand.name)

/-- How special a directive is: the length of its target, one more if there is one, and the name of
its field. -/
def weight (d : Directive) : Nat × Option String :=
  ((d.target.map fun target => target.length + 1).getD 0, d.field.map FieldDemand.name)

/-- Whether the first of two field names goes before the second or is the same; no name goes before
all others. -/
def fieldAtMost : Option String → Option String → Bool
  | none, _ => true
  | some _, none => false
  | some a, some b => !(b < a)

/-- Whether the second of two directives, which comes later, is preferred. -/
def yieldsTo (d later : Directive) : Bool :=
  d.weight.1 < later.weight.1
    || (d.weight.1 == later.weight.1 && fieldAtMost d.weight.2 later.weight.2)

end Directive

/-- The parts of a text between commas. -/
def splitAtCommas : List Char → List (List Char)
  | [] => [[]]
  | c :: rest =>
    if c = ',' then [] :: splitAtCommas rest
    else match splitAtCommas rest with
      | [] => [[c]]
      | part :: parts => (c :: part) :: parts

/-- The texts that should be directives. -/
def directiveTexts (text : String) : List String :=
  ((splitAtCommas text.toList).map String.ofList).filter (· ≠ "")

/-- A filter is a list of directives. -/
abbrev Filter := List Directive

namespace Filter

/-- The filter a text stands for. -/
def ofText (text : String) : Filter :=
  ((directiveTexts text).filterMap fun part => (Directive.parse part).toOption)
    ++ [{ rank := Level.warn.rank }]

/-- What is said about the parts of a text that are no directives. -/
def notices (text : String) : List String :=
  (directiveTexts text).filterMap fun part =>
    match Directive.parse part with
    | .ok _ => none
    | .error fault => some ("ignoring `" ++ part ++ "`: " ++ fault.message)

/-- The directive that decides about a line. -/
def deciding? (filter : Filter) (l : Line) : Option Directive :=
  (filter.filter fun d => d.appliesTo l).foldl
    (fun best? d => match best? with
      | none => some d
      | some best => if best.yieldsTo d then some d else some best) none

/-- Whether a line is shown. -/
def shows (filter : Filter) (l : Line) : Bool :=
  (filter.deciding? l).any fun d => l.level.rank ≤ d.rank

end Filter

/-- The variable that holds the filter. -/
def filterVariable : String := "RUST_LOG"

/-- The text of the filter in an environment. -/
def filterText (env : Environment) : String := (env.get? filterVariable).getD ""

/-- The lines that are shown, as text. -/
def shown (env : Environment) (lines : List Line) : List String :=
  (lines.filter (Filter.ofText (filterText env)).shows).map Line.text

end Conformance.Log
