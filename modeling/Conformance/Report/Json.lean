/-
# Records as JSON

A record as one JSON object without blanks.  The members stand in a fixed order.  A record
outside any titled group has no `group` member; the other optional members are `null` when they
have no value.  The layout is not part of the object.
-/
import Conformance.Record
import Conformance.Text.Decimal
import Conformance.Text.JsonString

namespace Conformance.Record

/-- A list of words as a JSON array. -/
def jsonWords (words : List Int32) : String :=
  "[" ++ ",".intercalate (words.map Text.decimal) ++ "]"

/-- An optional value, `null` if there is none. -/
def jsonOption {α : Type} (render : α → String) : Option α → String
  | some value => render value
  | none => "null"

/-- A member of an object. -/
def jsonMember (key value : String) : String := Text.jsonString key ++ ":" ++ value

/-- The members of a record, in order. -/
def jsonMembers (r : Record) : List String :=
  (match r.group with
    | some group => [jsonMember "group" (Text.jsonString group)]
    | none => [])
  ++ [jsonMember "function" (Text.jsonString r.function),
      jsonMember "label" (Text.jsonString r.label),
      jsonMember "reference_args" (jsonOption jsonWords r.referenceArgs),
      jsonMember "normal" (jsonOption Text.decimal r.normal),
      jsonMember "compiled_args" (jsonOption jsonWords r.compiledArgs),
      jsonMember "compiled" (Text.decimal r.compiled)]

/-- A record as a JSON object. -/
def json (r : Record) : String := "\x7b" ++ ",".intercalate r.jsonMembers ++ "\x7d"

end Conformance.Record
