/-
# Report events

A report is told as a sequence of events: headings, records, and the end.  A format says which
texts an event puts into the report.
-/
import Conformance.Report.Json
import Conformance.Report.Line

namespace Conformance

/-- What a report consists of. -/
inductive Event where
  /-- A group with a heading begins. -/
  | heading (text : String)
  /-- A probe was carried out. -/
  | record (record : Record)
  /-- The report is complete. -/
  | finish
  deriving DecidableEq

/-- How a report is written. -/
inductive Format where
  /-- Lines of text, columns separated by tabs. -/
  | text
  /-- One JSON object on each line. -/
  | json
  deriving DecidableEq

/-- The texts an event puts into the report, in the order in which they are written.  In JSON the
headings are part of the records. -/
def Event.fragments : Format → Event → List String
  | .text, heading text => [text, "\n"]
  | .text, record r => [r.line, "\n"]
  | .json, heading _ => []
  | .json, record r => [r.json, "\n"]
  | _, finish => []

end Conformance
