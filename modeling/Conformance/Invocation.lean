/-
# Invocations

The program from its command line to its exit.  The log filter is read first, and then the command
line; one that is wrong or asks for help is the end of it.
-/
import Conformance.Log.Filter
import Conformance.Program

namespace Conformance.Invocation

variable {m : Type → Type} [Monad m] {δ : Type}

/-- Stops at the command line.  What was asked for goes to standard output, and what is wrong to the
console; nobody looks at what becomes of it there. -/
def halt (around : Surroundings m δ) (env : Environment) (halt : CommandLine.Halt) : m Exit := do
  if halt.isAnswer then
    let _ ← around.print (halt.written env)
  else
    let _ ← around.say (halt.written env)
  return .code halt.exitCode

/-- The invocation of a command line. -/
def run (around : Surroundings m δ) (build : Build) (env : Environment) (arguments : List String) :
    m Exit := do
  match ← Program.sayAll around (Log.Filter.notices (Log.filterText env)) with
  | .error stop => Program.leave around env (.error stop)
  | .ok () =>
    match CommandLine.parse env arguments with
    | .error reason => halt around env reason
    | .ok settings => Program.execute around build env settings

end Conformance.Invocation
