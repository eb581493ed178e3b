/-
# Report lines

A record as one line of text, and the texts of argument lists that lines and descriptions share.
-/
import Conformance.Record
import Conformance.Text.Decimal

namespace Conformance

/-- An argument list in parentheses. -/
def formatInputs (args : List Int32) : String :=
  "(" ++ ", ".intercalate (args.map Text.decimal) ++ ")"

namespace Record

/-- The line of a record, without the newline.  A comparison without a reference value is laid
out as a tagged line. -/
def line (r : Record) : String :=
  match r.layout, r.normal with
  | .comparison, some normal =>
    r.label ++ "\t normal: " ++ Text.decimal normal ++ "\tcompiled:" ++ Text.decimal r.compiled
  | .comparison, none => r.label ++ "\tcompiled:" ++ Text.decimal r.compiled
  | .tagged, _ => r.label ++ "\tcompiled:" ++ Text.decimal r.compiled
  | .bare, _ => r.label ++ Text.decimal r.compiled

end Record

end Conformance
