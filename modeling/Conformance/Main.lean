/-
# The command

The surroundings of the program on a machine: its environment, its files and its streams.
Everything that is decided is decided by `Invocation.run`.
-/
import Conformance.Invocation

namespace Conformance.Main

/-- The variables the program looks at. -/
def watchedVariables : List String :=
  [CommandLine.backendVariable, CommandLine.startupDelayVariable, Log.filterVariable,
   "NO_COLOR", "CLICOLOR_FORCE"]

/-- Reads the environment. -/
def readEnvironment : IO Environment := do
  let vars ← watchedVariables.filterMapM fun name => return (← IO.getEnv name).map fun value =>
    (name, value)
  return ⟨vars⟩

/-- The text shown for an error of the operating system. -/
def causeText : IO.Error → String
  | .noFileOrDirectory _ code details
  | .inappropriateType _ code details
  | .permissionDenied _ code details
  | .resourceExhausted _ code details
  | .invalidArgument _ code details => details ++ " (os error " ++ code.toNat.repr ++ ")"
  | error => toString error

/-- The result of an action that may fail. -/
def attempt {α : Type} (act : IO α) : IO (Except String α) := do
  try return .ok (← act)
  catch error => return .error (causeText error)

/-- Writes bytes to a stream and flushes it. -/
def deliver (stream : IO.FS.Stream) (bytes : List UInt8) : IO Unit := do
  stream.write ⟨bytes.toArray⟩
  stream.flush

/-- Shows a log line, if the environment lets it through. -/
def tell (env : Environment) (line : Log.Line) : IO Unit :=
  (Log.shown env [line]).forM fun text => IO.eprintln text

/-- The surroundings of the program.  A report fits into its buffer, so it is written in one piece
when the suite has run. -/
def surroundings (env : Environment) : Surroundings IO IO.FS.Stream where
  print text := attempt do deliver (← IO.getStdout) (Text.bytes text)
  say line := attempt (IO.eprintln line)
  openDestination
    | none => return .ok (← IO.getStdout)
    | some path => attempt (IO.FS.Stream.ofHandle <$> IO.FS.Handle.mk path .write)
  report stream format backend := do
    let sink := (Sink.report format (Writer.bounded .unlimited)).logging
    let outcome := Suite.standard.run backend sink () ([], {})
    outcome.sink.1.forM (tell env)
    match outcome.result with
    | .error failure => return .error failure
    | .ok records =>
      let delivered ← attempt (deliver stream outcome.sink.2.bytes)
      return (delivered.mapError .output).map fun () => records
  tell := tell env
  wait delay :=
    IO.sleep (UInt32.ofNat (min (delay.seconds.toNat * 1000 + delay.millis.val) (UInt32.size - 1)))

end Conformance.Main

open Conformance in
/-- Compares reference functions against their compiled counterparts. -/
def main (arguments : List String) : IO UInt32 := do
  let env ← Main.readEnvironment
  match ← Invocation.run (Main.surroundings env) .standard env arguments with
  | .code code => return UInt32.ofNat code
  | .panic cause => throw (IO.userError cause)
