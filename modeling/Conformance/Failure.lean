/-
# Failures

What can go wrong while the harness runs, as a type of causes.  Each cause has one wording,
`Failure.message`, and one exit code, `Failure.exitCode`; nothing else in the library spells
either of them out.
-/

namespace Conformance

/-- The causes a run can fail for. -/
inductive Failure where
  /-- The harness was asked for something it cannot be configured to do. -/
  | configuration (reason : String)
  /-- The report could not be written; `cause` is what the writer said. -/
  | output (cause : String)
  /-- A function was given a number of arguments other than its arity. -/
  | arity (symbol : String) (expected got : Nat)
  /-- Some compiled results differ from the reference.  `count` counts results, `entries` lists
  the cases they belong to. -/
  | mismatch (count : Nat) (entries : List String)
  deriving DecidableEq

namespace Failure

/-- The text shown for a failure. -/
def message : Failure → String
  | configuration reason => "configuration error: " ++ reason
  | output cause => "output error: " ++ cause
  | arity symbol expected got =>
    symbol ++ " takes " ++ expected.repr ++ " argument(s), got " ++ got.repr
  | mismatch count entries =>
    count.repr ++ " result(s) differ between reference and compiled: " ++ ", ".intercalate entries

/-- Exit code of a program that did what it was asked for. -/
def exitSuccess : Nat := 0

/-- Exit code of a failure that is not about the configuration. -/
def exitGeneric : Nat := 1

/-- Exit code of a configuration failure. -/
def exitConfiguration : Nat := 4

/-- The exit code of a failure.  A mismatch is a finding, not a failure of the program, so it
exits with success. -/
def exitCode : Failure → Nat
  | configuration _ => exitConfiguration
  | output _ => exitGeneric
  | arity .. => exitGeneric
  | mismatch .. => exitSuccess

/-- The texts below a failure, from the failure itself down to its origin.  An output failure
stands on top of what the writer said; every other failure is its own origin. -/
def trail : Failure → List String
  | output cause => [message (output cause), cause]
  | failure => [failure.message]

end Failure

end Conformance
