/-
# Probes

A probe is one planned observation of an operation: what to ask the reference, what to ask the
compiled side, and how to lay out the result.  `Probe.execute` carries it out: first the
reference, then the compiled side.
-/
import Conformance.Backend
import Conformance.Record
import Conformance.Text.Blank

namespace Conformance

/-- What the compiled side of a probe does. -/
inductive CompiledSide where
  /-- Call the compiled function with these arguments. -/
  | call (args : List Int32)
  /-- Report this word without a call. -/
  | literal (value : Int32)
  deriving DecidableEq

/-- One planned observation. -/
structure Probe where
  /-- The operation that is observed. -/
  operation : Operation
  /-- The text printed before the values. -/
  label : String
  /-- The arguments of the reference, `none` if the reference is not asked. -/
  referenceArgs : Option (List Int32)
  /-- What the compiled side does. -/
  compiled : CompiledSide
  /-- How the result is laid out. -/
  layout : Layout
  deriving DecidableEq

namespace Probe

/-- Asks the reference with `args`, and the compiled side for what `compiled` says. -/
def compareWith (op : Operation) (label : String) (args : List Int32) (compiled : CompiledSide) :
    Probe :=
  ⟨op, label, some args, compiled, .comparison⟩

/-- Asks both sides with the same arguments. -/
def compare (op : Operation) (label : String) (args : List Int32) : Probe :=
  compareWith op label args (.call args)

/-- Asks the compiled side only. -/
def observe (op : Operation) (label : String) (args : List Int32) (layout : Layout) : Probe :=
  ⟨op, label, none, .call args, layout⟩

/-- The title of a group: its heading without any colons at the end. -/
def groupTitle (heading : String) : String := Text.dropEndWhile (· == ':') heading

/-- What the reference side of a probe answers: a value only if the probe asks for one and the
operation has a reference. -/
def normal (p : Probe) : Except Failure (Option Int32) :=
  match p.referenceArgs with
  | none => .ok none
  | some args => p.operation.invokeReference args

/-- The arguments the compiled side is called with. -/
def compiledArgs (p : Probe) : Option (List Int32) :=
  match p.compiled with
  | .call args => some args
  | .literal _ => none

/-- The record of a probe under a heading, from the values of its two sides. -/
def record (p : Probe) (heading : Option String) (normal : Option Int32) (compiled : Int32) :
    Record where
  group := heading.map groupTitle
  function := p.operation.symbol
  label := p.label
  referenceArgs := p.referenceArgs
  normal := normal
  compiledArgs := p.compiledArgs
  compiled := compiled
  layout := p.layout

variable {σ : Type}

/-- What the compiled side of a probe answers. -/
def invokeCompiled (p : Probe) (backend : Backend σ) (s : σ) : Except Failure Int32 × σ :=
  match p.compiled with
  | .call args => backend.invoke p.operation args s
  | .literal value => (.ok value, s)

/-- Carries out a probe.  The compiled side is asked only if the reference side did not fail. -/
def execute (p : Probe) (backend : Backend σ) (heading : Option String) (s : σ) :
    Except Failure Record × σ :=
  match p.normal with
  | .error failure => (.error failure, s)
  | .ok normal =>
    match p.invokeCompiled backend s with
    | (.error failure, s) => (.error failure, s)
    | (.ok compiled, s) => (.ok (p.record heading normal compiled), s)

end Probe

end Conformance
