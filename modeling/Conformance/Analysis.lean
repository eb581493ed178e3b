/-
# Analysis

The harness reports what it finds without judging it; the analysis is the judgement, made on the
records afterwards.  A mismatch counts every record whose two values differ, and lists the cases
they belong to once each.  The summary of a run is the analysis in words.
-/
import Conformance.Failure
import Conformance.Report.Line
import Conformance.Text.Blank

namespace Conformance

namespace Record

/-- The case a record belongs to: its function, and its label without the padding. -/
def entry (r : Record) : String := r.function ++ " " ++ Text.trimEnd r.label

/-- What differs in a record: the reference with its arguments and value, then the compiled
side. -/
def describe (r : Record) : String :=
  let referenceArgs := match r.referenceArgs with
    | some args => formatInputs args
    | none => ""
  let normal := match r.normal with
    | some value => Text.decimal value
    | none => "-"
  let compiled := match r.compiledArgs with
    | some args => r.function ++ formatInputs args ++ " = " ++ Text.decimal r.compiled
    | none => "literal " ++ Text.decimal r.compiled
  r.function ++ referenceArgs ++ " = " ++ normal ++ ", compiled " ++ compiled

end Record

/-- The members of a list that are not in `seen`, each once, where it occurs first. -/
def firstOccurrences {α : Type} [BEq α] (seen : List α) : List α → List α
  | [] => []
  | a :: rest =>
    if seen.contains a then firstOccurrences seen rest else a :: firstOccurrences (a :: seen) rest

/-- The records whose two values differ. -/
def differing (records : List Record) : List Record := records.filter Record.differs

/-- Succeeds exactly if no record differs. -/
def analyze (records : List Record) : Except Failure Unit :=
  match differing records with
  | [] => .ok ()
  | mismatched =>
    .error (.mismatch mismatched.length (firstOccurrences [] (mismatched.map Record.entry)))

/-- The analysis in words. -/
inductive Summary where
  /-- Nothing differs; `compared` records set two values side by side. -/
  | clean (compared : Nat)
  /-- Something differs: one line for all of it, and one for each record. -/
  | mismatched (headline : String) (details : List String)
  deriving DecidableEq

/-- The summary of the records of a run. -/
def summarize (records : List Record) : Summary :=
  match analyze records with
  | .ok () => .clean (records.filter Record.isComparison).length
  | .error failure => .mismatched failure.message ((differing records).map Record.describe)

end Conformance
