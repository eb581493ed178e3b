/-
# The program

From settings to a report, in any surroundings.  The order of decisions is fixed: a completion
script in place of everything else, then the backend, then the output file, then the run, and the
summary last.

Trouble is shown on the console and has an exit code.  A script or a line that cannot be written is
worse: the program stops on the spot, in a panic.
-/
import Conformance.CommandLine.Parse
import Conformance.Completion.Script
import Conformance.Console
import Conformance.Factory
import Conformance.Failure.Trouble
import Conformance.Surroundings

namespace Conformance

/-- Why the program stops before its end. -/
inductive Stop where
  /-- Trouble, which is still to be shown. -/
  | trouble (trouble : Trouble)
  /-- A panic. -/
  | panic (cause : String)
  deriving DecidableEq

/-- How the program is left. -/
inductive Exit where
  /-- With an exit code. -/
  | code (code : Nat)
  /-- By a panic. -/
  | panic (cause : String)
  deriving DecidableEq

namespace Program

variable {m : Type → Type} [Monad m] {δ : Type}

/-- Shows lines on the console, up to the first that is refused. -/
def sayAll (around : Surroundings m δ) : List String → m (Except Stop Unit)
  | [] => return .ok ()
  | line :: rest => do
    match ← around.say line with
    | .error cause => return .error (.panic cause)
    | .ok () => sayAll around rest

/-- The trouble of a destination that cannot be opened. -/
def cannotOpen (settings : Settings) (cause : String) : Trouble :=
  let context := match settings.output with
    | some path => "cannot open output file " ++ path
    | none => "cannot open stdout"
  (⟨.plain cause, []⟩ : Trouble).within context

/-- The trouble of a report that cannot be written. -/
def cannotReport (failure : Failure) : Trouble :=
  (Trouble.ofFailure failure).within "writing report"

/-- What is shown about the records after a report. -/
def summaryLines (env : Environment) (settings : Settings) (records : List Record) : List String :=
  if settings.summary then Console.summary env (summarize records) else []

/-- Runs the standard suite and sums it up if asked to. -/
def report (around : Surroundings m δ) (backend : Backend Unit) (env : Environment)
    (settings : Settings) (destination : δ) : m (Except Stop Unit) := do
  around.tell (Log.runningSuite backend.name Suite.standard.size)
  match ← around.report destination settings.format backend with
  | .error failure => return .error (.trouble (cannotReport failure))
  | .ok records =>
    around.tell (Log.suiteComplete records.length)
    sayAll around (summaryLines env settings records)

/-- Waits before the first output. -/
def pause (around : Surroundings m δ) (delay : Delay) : m Unit := do
  unless delay = .zero do
    around.tell (Log.waiting delay)
    around.wait delay

/-- Opens the destination, waits, and runs. -/
def produce (around : Surroundings m δ) (backend : Backend Unit) (env : Environment)
    (settings : Settings) : m (Except Stop Unit) := do
  around.tell (Log.openingOutput settings.output)
  match ← around.openDestination settings.output with
  | .error cause => return .error (.trouble (cannotOpen settings cause))
  | .ok destination =>
    pause around settings.startupDelay
    report around backend env settings destination

/-- Prints a completion script. -/
def complete (around : Surroundings m δ) (shell : Shell) : m (Except Stop Unit) := do
  match ← around.print (CommandLine.command.completion shell) with
  | .error cause => return .error (.panic cause)
  | .ok () => return .ok ()

/-- Runs the program with the given settings.  A completion script comes before everything else;
otherwise the backend must be there. -/
def run (around : Surroundings m δ) (build : Build) (env : Environment) (settings : Settings) :
    m (Except Stop Unit) := do
  match settings.completion with
  | some shell => complete around shell
  | none =>
    around.tell (Log.creatingBackend (settings.backend.getD build.defaultName))
    match (Factory.new.select build settings.backend 0).1 with
    | .error failure => return .error (.trouble (.ofFailure failure))
    | .ok object => produce around object.backend env settings

/-- Leaves the program.  Trouble is shown first. -/
def leave (around : Surroundings m δ) (env : Environment) : Except Stop Unit → m Exit
  | .ok () => return .code Failure.exitSuccess
  | .error (.panic cause) => return .panic cause
  | .error (.trouble trouble) => do
    match ← around.say (Console.message env .error trouble.fullText) with
    | .error cause => return .panic cause
    | .ok () => return .code trouble.exitCode

/-- The program with the given settings, to its exit. -/
def execute (around : Surroundings m δ) (build : Build) (env : Environment) (settings : Settings) :
    m Exit := do
  around.tell (Log.starting build.fullVersion settings)
  leave around env (← run around build env settings)

end Program

end Conformance
