/-
# Log directives

A directive says up to which level lines are shown, and for which of them: those of speakers whose
name begins with a target, those in a span, and those with a field.

    target[span{field=value}]=level

Every part can be left out.  A directive without a level lets everything through, and a text that
is only the name of a level is a directive for all lines.  Blanks around a directive are passed over
when its parts are looked for, but the parts are then cut out of the text as it stands, at the same
distances from its start.
-/
import Conformance.Log
import Conformance.Log.FieldDemand
import Conformance.Text.Bytes
import Conformance.Text.Decimal

namespace Conformance.Log

/-- Which lines are shown up to which level.  The level is given by its rank, where rank zero is
below every level. -/
structure Directive where
  target : Option String := none
  span : Option String := none
  field : Option FieldDemand := none
  rank : Nat := Level.trace.rank
  deriving DecidableEq

/-- Why a text is no directive. -/
inductive Directive.Fault where
  /-- It has not the form of one. -/
  | malformed
  /-- What stands for the level is none. -/
  | level
  /-- The value of a field cannot be used. -/
  | value (fault : Pattern.Fault)
  deriving DecidableEq

namespace Directive

/-- The text shown for a fault. -/
def Fault.message : Fault → String
  | malformed => "invalid filter directive"
  | level =>
    "error parsing level filter: expected one of \"off\", \"error\", \"warn\", \"info\", "
      ++ "\"debug\", \"trace\", or a number 0-5"
  | value fault => "invalid field filter: " ++ fault.message

/-- The rank that a number stands for. -/
def rankOfNumber? (text : List Char) : Option Nat :=
  let digits := match text with
    | '+' :: rest => rest
    | _ => text
  (Text.readDigits? digits).filter (· ≤ Level.trace.rank)

/-- The rank that the name of a level stands for, in any case. -/
def rankOfName? (text : List Char) : Option Nat :=
  match String.ofList (text.map Char.toLower) with
  | "off" => some 0
  | "error" => some Level.error.rank
  | "warn" => some Level.warn.rank
  | "info" => some Level.info.rank
  | "debug" => some Level.debug.rank
  | "trace" => some Level.trace.rank
  | _ => none

/-- The rank that a level in a directive stands for. -/
def rankOf? (text : String) : Option Nat := rankOfNumber? text.toList <|> rankOfName? text.toList

/-- Where in a directive a reader is, and at which byte the part it is in begins. -/
inductive Place where
  /-- Before the first character. -/
  | start
  /-- In a target, or in a level that stands alone. -/
  | head (origin : Nat)
  /-- In a span. -/
  | span (origin : Nat)
  /-- In a field. -/
  | field (origin : Nat)
  /-- After a field. -/
  | afterField
  /-- After the brackets. -/
  | afterSpan
  /-- In a level. -/
  | level (origin : Nat)
  deriving DecidableEq

/-- The bytes of a text from one distance up to another, as a text. -/
def cut (text : List UInt8) (first last : Nat) : String :=
  Text.ofLeadingBytes ((text.take last).drop first)

/-- Whether a target can begin with a character. -/
def beginsTarget (c : Char) : Bool :=
  c == '-' || c == ':' || c == '_' || Text.isLetter c || Text.isNumeral c

/-- Takes in a field. -/
def addField (d : Directive) (text : String) : Except Fault Directive :=
  if text = "" then .error .malformed
  else
    let demand := FieldDemand.ofText text
    match demand.check with
    | .error fault => .error (.value fault)
    | .ok () => .ok { d with field := some demand }

/-- Reads one character of a directive, which is `offset` bytes from the start. -/
def read (text : List UInt8) (d : Directive) (place : Place) (offset : Nat) (c : Char) :
    Except Fault (Directive × Place) :=
  match place with
  | .start =>
    if c = '[' then .ok (d, .span (offset + 1))
    else if beginsTarget c then .ok (d, .head offset)
    else .error .malformed
  | .head origin =>
    if c = '=' then .ok ({ d with target := some (cut text origin offset) }, .level (offset + 1))
    else if c = '[' then
      .ok ({ d with target := some (cut text origin offset) }, .span (offset + 1))
    else .ok (d, place)
  | .span origin =>
    if c = ']' then .ok ({ d with span := some (cut text origin offset) }, .afterSpan)
    else if c = '\x7b' then
      let span := if origin = offset then none else some (cut text origin offset)
      .ok ({ d with span }, .field (offset + 1))
    else .ok (d, place)
  | .field origin =>
    if c = '\x7d' then (d.addField (cut text origin offset)).map (·, .afterField)
    else .ok (d, place)
  | .afterField => if c = ']' then .ok (d, .afterSpan) else .error .malformed
  | .afterSpan => if c = '=' then .ok (d, .level (offset + 1)) else .error .malformed
  | .level _ => .ok (d, place)

/-- Reads the characters of a directive in order. -/
def readAll (text : List UInt8) (d : Directive) (place : Place) (offset : Nat) :
    List Char → Except Fault (Directive × Place)
  | [] => .ok (d, place)
  | c :: rest =>
    match read text d place offset c with
    | .error fault => .error fault
    | .ok (d, place) => readAll text d place (offset + c.utf8Size) rest

/-- The directive that is there when the text has come to its end. -/
def finish (text : List UInt8) (d : Directive) : Place → Except Fault Directive
  | .head origin =>
    let head := cut text origin text.length
    match rankOf? head with
    | some rank => .ok { d with rank }
    | none => .ok { d with target := some head }
  | .level origin =>
    let level := cut text origin text.length
    if level = "" then .ok d
    else match rankOf? level with
      | some rank => .ok { d with rank }
      | none => .error .level
  | .afterSpan => .ok d
  | _ => .error .malformed

/-- The directive that a text stands for. -/
def parse (text : String) : Except Fault Directive :=
  let bytes := Text.bytes text
  match readAll bytes {} .start 0 (Text.trim text).toList with
  | .error fault => .error fault
  | .ok (d, place) => finish bytes d place

end Directive

end Conformance.Log
