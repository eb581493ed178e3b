/-
# The log

The program tells what it does in log lines, each with a level, the name of the part that speaks,
and particulars by name.
-/
import Conformance.Record
import Conformance.Settings
import Conformance.Text.Decimal
import Conformance.Text.Quoted

namespace Conformance.Log

/-- How important a line is. -/
inductive Level where
  | error
  | warn
  | info
  | debug
  | trace
  deriving DecidableEq

/-- Levels from the most important one on. -/
def Level.rank : Level → Nat
  | error => 1
  | warn => 2
  | info => 3
  | debug => 4
  | trace => 5

/-- The name of a level at the start of a line. -/
def Level.name : Level → String
  | error => "ERROR"
  | warn => "WARN"
  | info => "INFO"
  | debug => "DEBUG"
  | trace => "TRACE"

/-- A line of the log. -/
structure Line where
  /-- How important it is. -/
  level : Level
  /-- The part of the program that speaks. -/
  target : String
  /-- What happened. -/
  message : String
  /-- The particulars, by name. -/
  fields : List (String × String)
  deriving DecidableEq

/-- The names of everything a line holds; what happened counts as one of them. -/
def Line.fieldNames (l : Line) : List String := "message" :: l.fields.map (·.1)

/-- A line as it is shown. -/
def Line.text (l : Line) : String :=
  l.level.name ++ " " ++ l.target ++ ": " ++ l.message
    ++ String.join (l.fields.map fun (name, value) => " " ++ name ++ "=" ++ value)

/-! ### What is told -/

/-- The program has read its command line. -/
def starting (version : String) (settings : Settings) : Line :=
  ⟨.debug, "crosscheck", "starting", [("version", version), ("config", settings.text)]⟩

/-- A backend is about to be made. -/
def creatingBackend (name : String) : Line :=
  ⟨.debug, "crosscheck_core::registry", "creating backend", [("backend", Text.quote name)]⟩

/-- The report is about to be opened. -/
def openingOutput (path : Option String) : Line :=
  ⟨.debug, "crosscheck_cli::output", "opening report output",
    [("path", Text.showOption Text.quote path)]⟩

/-- The program waits. -/
def waiting (delay : Delay) : Line :=
  ⟨.info, "crosscheck_lib::app", "waiting before first output", [("delay", delay.text)]⟩

/-- A suite is about to run. -/
def runningSuite (backend : String) (probes : Nat) : Line :=
  ⟨.info, "crosscheck_orchestration::orchestrator", "running suite",
    [("backend", Text.quote backend), ("probes", probes.repr)]⟩

/-- A probe has been carried out. -/
def probeFinished (r : Record) : Line :=
  ⟨.debug, "crosscheck_orchestration::orchestrator", "probe finished",
    [("function", Text.quote r.function), ("normal", Text.showOption Text.decimal r.normal),
     ("compiled", Text.decimal r.compiled),
     ("literal", if r.compiledArgs.isNone then "true" else "false")]⟩

/-- A suite has run to its end. -/
def suiteComplete (records : Nat) : Line :=
  ⟨.info, "crosscheck_orchestration::orchestrator", "suite complete",
    [("records", records.repr)]⟩

end Conformance.Log
