/-
# Troubles

A trouble is what reaches the top of the program: an origin, and the contexts that were added to
it on the way up.  The exit code looks through the contexts at the origin and no further; the
full text looks through both.
-/
import Conformance.Failure

namespace Conformance

/-- Where a trouble started.  An error shows a text, and it may stand on top of another error, its
source. -/
inductive Origin where
  /-- A failure of the harness. -/
  | failure (failure : Failure)
  /-- A failure of the harness to write its report, on top of an error that may have sources of its
  own; `Failure.output` is the case of an error that is only a text. -/
  | output (cause : Origin)
  /-- An error packed inside an input/output error.  It reads like the error, down to the
  sources. -/
  | packing (error : Origin)
  /-- Anything else, known by its text only. -/
  | plain (text : String)
  /-- Anything else, on top of its source. -/
  | caused (text : String) (source : Origin)
  deriving DecidableEq

namespace Origin

/-- A failure of the harness packed inside an input/output error. -/
def packed (f : Failure) : Origin := packing (failure f)

/-- The topmost text of an origin. -/
def message : Origin → String
  | failure f => f.message
  | output cause => (Failure.output cause.message).message
  | packing error => error.message
  | plain text => text
  | caused text _ => text

/-- The texts of an origin, topmost first. -/
def trail : Origin → List String
  | failure f => f.trail
  | output cause => (Failure.output cause.message).message :: cause.trail
  | packing error => error.trail
  | plain text => [text]
  | caused text source => text :: source.trail

/-- The failure that an origin is recognised as.  What an error packs or stands on top of does not
count. -/
def failure? : Origin → Option Failure
  | failure f => some f
  | output cause => some (.output cause.message)
  | packing _ | plain _ | caused .. => none

/-- Only a failure that is recognised as one has an exit code of its own. -/
def exitCode (origin : Origin) : Nat :=
  match origin.failure? with
  | some f => f.exitCode
  | none => Failure.exitGeneric

end Origin

/-- An origin under a stack of contexts, outermost first. -/
structure Trouble where
  /-- Where it started. -/
  origin : Origin
  /-- What was added to it since, the last addition first. -/
  contexts : List String := []
  deriving DecidableEq

namespace Trouble

/-- The trouble a bare failure makes. -/
def ofFailure (f : Failure) : Trouble := ⟨.failure f, []⟩

/-- The same trouble with one more context around it. -/
def within (context : String) (t : Trouble) : Trouble :=
  { t with contexts := context :: t.contexts }

/-- The same trouble with `contexts` added one after the other. -/
def withinAll (contexts : List String) (t : Trouble) : Trouble :=
  contexts.foldl (fun t context => t.within context) t

/-- The outermost text. -/
def headline (t : Trouble) : String := t.contexts.headD t.origin.message

/-- All texts, from the outermost context down to the origin of the origin. -/
def trail (t : Trouble) : List String := t.contexts ++ t.origin.trail

/-- All texts on one line. -/
def fullText (t : Trouble) : String := ": ".intercalate t.trail

/-- The exit code of the program that ends in this trouble. -/
def exitCode (t : Trouble) : Nat := t.origin.exitCode

end Trouble

end Conformance
