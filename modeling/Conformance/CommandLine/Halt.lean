/-
# Halts

Why the program stops at its command line: because it was asked for help or its version, or
because something on the command line is wrong.
-/
import Conformance.Build
import Conformance.CommandLine.Flag
import Conformance.CommandLine.Help
import Conformance.Delay
import Conformance.Text.Lines
import Conformance.Text.Styled

namespace Conformance.CommandLine

open Text (Styled bare)

/-- Why the program stops at its command line. -/
inductive Halt where
  /-- Help was asked for, by its long name or by its letter. -/
  | help (long : Bool)
  /-- The version was asked for. -/
  | version
  /-- No flag has this name, or it names none. -/
  | unknownArgument (argument : String)
  /-- A setting has no value. -/
  | missingValue (setting : Setting)
  /-- The value is not one of those a setting can take. -/
  | invalidValue (setting : Setting) (value : String)
  /-- The value is not a delay. -/
  | invalidDelay (value : String) (reason : Delay.Invalid)
  /-- A flag is given twice. -/
  | repeated (flag : Flag)
  /-- A switch has a value. -/
  | unneededValue (switch : Switch) (value : String)
  deriving DecidableEq

namespace Halt

/-- Whether the program did what it was asked for. -/
def isAnswer : Halt → Bool
  | help _ | version => true
  | _ => false

/-- The exit code of a program that stops here. -/
def exitCode (halt : Halt) : Nat := if halt.isAnswer then Failure.exitSuccess else 2

/-- An error about something that is wrong, which stands in quotes, and about the rest. -/
def fault (before wrong after : String) : Styled :=
  [⟨some .error, "error:"⟩, bare (" " ++ before ++ " '"), ⟨some .invalid, wrong⟩,
   bare ("'" ++ after)]

/-- An error about a value that is wrong for a flag. -/
def valueFault (before value label after : String) : Styled :=
  fault before value " for '" ++ [⟨some .literal, label⟩, bare ("'" ++ after)]

/-- What is to be said. -/
def styled (env : Environment) : Halt → Styled
  | help long => CommandLine.help env long
  | version => [bare ("crosscheck " ++ Build.version ++ "\n")]
  | unknownArgument argument => fault "unexpected argument" argument " found"
  | missingValue s => fault "a value is required for" s.label " but none was supplied"
  | invalidValue s value => valueFault "invalid value" value s.label ""
  | invalidDelay value reason =>
    valueFault "invalid value" value Setting.startupDelay.label (": " ++ reason.message)
  | repeated flag => fault "the argument" flag.label " cannot be used multiple times"
  | unneededValue w value =>
    valueFault "unexpected value" value w.label " found; no more were expected"

/-- What is to be said, without colours. -/
def text (env : Environment) (halt : Halt) : String := (halt.styled env).plain

/-- What is written to standard output or to the console. -/
def written (env : Environment) (halt : Halt) : String := (halt.styled env).written env

end Halt

end Conformance.CommandLine
