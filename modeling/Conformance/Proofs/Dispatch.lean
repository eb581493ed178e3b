/-
# What the arity check lets through

Both sides of a probe check the length of an argument list before anything else happens.  Each
function here has one lemma for a list of the right length and one for any other list, so that
later proofs do not open the check again.

Behind the check a call goes to the function of its operation, with the arguments at their
positions.  `Operation.callCases` writes the arguments of each operation out, and with it there is
one lemma for each kind of backend that says what the backend makes of a call.
-/
import Conformance.Probe
import Mathlib.Data.List.Basic
import Mathlib.Tactic.Common

namespace Conformance

variable {σ τ : Type}

namespace Operation

/-- What holds for the calls of each operation, with the arguments written out, holds for all
calls. -/
@[elab_as_elim]
lemma callCases {motive : (op : Operation) → op.Args → Prop}
    (greater : ∀ a b, motive .greater ⟨[a, b], rfl⟩)
    (lesser : ∀ a b, motive .lesser ⟨[a, b], rfl⟩)
    (equal : ∀ a b, motive .equal ⟨[a, b], rfl⟩)
    (thresholdBranch : ∀ a b, motive .thresholdBranch ⟨[a, b], rfl⟩)
    (fibonacci : ∀ n, motive .fibonacci ⟨[n], rfl⟩)
    (factorial : ∀ n, motive .factorial ⟨[n], rfl⟩)
    (even : ∀ n, motive .even ⟨[n], rfl⟩)
    (odd : ∀ n, motive .odd ⟨[n], rfl⟩)
    (random : ∀ n, motive .random ⟨[n], rfl⟩)
    (sum : ∀ a b c, motive .sum ⟨[a, b, c], rfl⟩)
    (selfTest : motive .selfTest ⟨[], rfl⟩) (op : Operation) (args : op.Args) : motive op args := by
  obtain ⟨args, h⟩ := args
  cases op with
  | greater =>
    obtain ⟨a, b, rfl⟩ := List.length_eq_two.mp h
    exact greater a b
  | lesser =>
    obtain ⟨a, b, rfl⟩ := List.length_eq_two.mp h
    exact lesser a b
  | equal =>
    obtain ⟨a, b, rfl⟩ := List.length_eq_two.mp h
    exact equal a b
  | thresholdBranch =>
    obtain ⟨a, b, rfl⟩ := List.length_eq_two.mp h
    exact thresholdBranch a b
  | fibonacci =>
    obtain ⟨n, rfl⟩ := List.length_eq_one_iff.mp h
    exact fibonacci n
  | factorial =>
    obtain ⟨n, rfl⟩ := List.length_eq_one_iff.mp h
    exact factorial n
  | even =>
    obtain ⟨n, rfl⟩ := List.length_eq_one_iff.mp h
    exact even n
  | odd =>
    obtain ⟨n, rfl⟩ := List.length_eq_one_iff.mp h
    exact odd n
  | random =>
    obtain ⟨n, rfl⟩ := List.length_eq_one_iff.mp h
    exact random n
  | sum =>
    obtain ⟨a, b, c, rfl⟩ := List.length_eq_three.mp h
    exact sum a b c
  | selfTest =>
    obtain rfl := List.eq_nil_of_length_eq_zero h
    exact selfTest

/-- The failure of an argument list whose length is not the arity. -/
def arityFailure (op : Operation) (args : List Int32) : Failure :=
  .arity op.symbol op.arity args.length

lemma check_of_length {op : Operation} {args : List Int32} (h : args.length = op.arity) :
    op.check args = .ok ⟨args, h⟩ := by
  rw [check, dif_pos h]

lemma check_of_length_ne {op : Operation} {args : List Int32} (h : args.length ≠ op.arity) :
    op.check args = .error (op.arityFailure args) := by
  rw [check, dif_neg h, arityFailure]

lemma invokeReference_of_length {op : Operation} {args : List Int32}
    (h : args.length = op.arity) :
    op.invokeReference args = .ok (op.reference?.map fun f => f.apply args h) := by
  rw [invokeReference, check_of_length h]

lemma invokeReference_of_length_ne {op : Operation} {args : List Int32}
    (h : args.length ≠ op.arity) : op.invokeReference args = .error (op.arityFailure args) := by
  rw [invokeReference, check_of_length_ne h]

end Operation

namespace Backend

lemma invoke_of_length (backend : Backend σ) {op : Operation} {args : List Int32}
    (h : args.length = op.arity) (s : σ) :
    backend.invoke op args s
      = (.ok (backend.call op ⟨args, h⟩ s).1, (backend.call op ⟨args, h⟩ s).2) := by
  rw [invoke, Operation.check_of_length h]

lemma invoke_of_length_ne (backend : Backend σ) {op : Operation} {args : List Int32}
    (h : args.length ≠ op.arity) (s : σ) :
    backend.invoke op args s = (.error (op.arityFailure args), s) := by
  rw [invoke, Operation.check_of_length_ne h]

/-- A backend that computes its answers answers the value of the function at the arguments. -/
lemma call_ofFunctions (name : String) (functions : (op : Operation) → WordFunction op.arity)
    (op : Operation) (args : op.Args) (s : Unit) :
    (ofFunctions name functions).call op args s
      = ((functions op).apply args.val args.property, s) := by
  induction op, args using Operation.callCases <;> rfl

lemma invoke_ofFunctions_of_length {name : String}
    {functions : (op : Operation) → WordFunction op.arity} {op : Operation} {args : List Int32}
    (h : args.length = op.arity) :
    (ofFunctions name functions).invoke op args () = (.ok ((functions op).apply args h), ()) := by
  rw [invoke_of_length _ h, call_ofFunctions]

/-- A backend that stands behind the functions of another one is given the call that was made. -/
lemma call_serving (backend : Backend σ) (serve : Call → (σ → Int32 × σ) → τ → Int32 × τ)
    (op : Operation) (args : op.Args) :
    (backend.serving serve).call op args = serve ⟨op, args.val⟩ (backend.call op args) := by
  induction op, args using Operation.callCases <;> rfl

/-- A recording backend answers as it would without recording, and writes the call down. -/
lemma call_recording (backend : Backend σ) (op : Operation) (args : op.Args) (s : σ)
    (calls : List Call) :
    backend.recording.call op args (s, calls)
      = ((backend.call op args s).1, (backend.call op args s).2, calls ++ [⟨op, args.val⟩]) := by
  rw [recording, call_serving]

end Backend

namespace Probe

/-- The failure of a probe whose reference arguments are not as many as the operation takes. -/
def referenceFailure? (p : Probe) : Option Failure :=
  match p.referenceArgs with
  | none => none
  | some args =>
    if args.length = p.operation.arity then none else some (p.operation.arityFailure args)

/-- The value of the reference at the reference arguments, if there are both. -/
def referenceValue? (p : Probe) : Option Int32 :=
  match p.referenceArgs with
  | none => none
  | some args =>
    if h : args.length = p.operation.arity then p.operation.reference?.map fun f => f.apply args h
    else none

/-- The call of a probe, if it makes one. -/
def call? (p : Probe) : Option Call :=
  match p.compiled with
  | .call args => some ⟨p.operation, args⟩
  | .literal _ => none

lemma referenceFailure?_eq_some_iff {p : Probe} {failure : Failure} :
    p.referenceFailure? = some failure ↔
      ∃ args, p.referenceArgs = some args ∧ args.length ≠ p.operation.arity ∧
        failure = p.operation.arityFailure args := by
  unfold referenceFailure?
  rcases p.referenceArgs with _ | args
  · simp
  · by_cases hlen : args.length = p.operation.arity <;> simp [hlen, eq_comm]

lemma referenceFailure?_eq_none_iff {p : Probe} :
    p.referenceFailure? = none ↔
      ∀ args, p.referenceArgs = some args → args.length = p.operation.arity := by
  unfold referenceFailure?
  rcases p.referenceArgs with _ | args
  · simp
  · by_cases hlen : args.length = p.operation.arity <;> simp [hlen]

lemma normal_of_referenceFailure {p : Probe} {failure : Failure}
    (h : p.referenceFailure? = some failure) : p.normal = .error failure := by
  obtain ⟨args, hargs, hlen, rfl⟩ := referenceFailure?_eq_some_iff.mp h
  simp only [normal, hargs]
  exact Operation.invokeReference_of_length_ne hlen

lemma normal_of_referenceFailure_none {p : Probe} (h : p.referenceFailure? = none) :
    p.normal = .ok p.referenceValue? := by
  cases hargs : p.referenceArgs with
  | none => simp only [normal, referenceValue?, hargs]
  | some args =>
    have hlen : args.length = p.operation.arity := referenceFailure?_eq_none_iff.mp h args hargs
    simp only [normal, referenceValue?, hargs, dif_pos hlen]
    exact Operation.invokeReference_of_length hlen

/-- The four ways a probe can go: its reference arguments are refused, it reports a literal, its
call goes through, or its call is refused. -/
lemma cases (p : Probe) :
    (∃ failure, p.referenceFailure? = some failure) ∨
    (∃ value, p.referenceFailure? = none ∧ p.compiled = .literal value) ∨
    (∃ args, args.length = p.operation.arity ∧ p.referenceFailure? = none ∧
      p.compiled = .call args) ∨
    (∃ args, args.length ≠ p.operation.arity ∧ p.referenceFailure? = none ∧
      p.compiled = .call args) := by
  rcases hf : p.referenceFailure? with _ | failure
  · rcases hc : p.compiled with args | value
    · by_cases hlen : args.length = p.operation.arity
      · exact .inr (.inr (.inl ⟨args, hlen, rfl, rfl⟩))
      · exact .inr (.inr (.inr ⟨args, hlen, rfl, rfl⟩))
    · exact .inr (.inl ⟨value, rfl, rfl⟩)
  · exact .inl ⟨failure, rfl⟩

variable {p : Probe} (backend : Backend σ) (under : Option String) (s : σ)

lemma execute_of_referenceFailure {failure : Failure} (h : p.referenceFailure? = some failure) :
    p.execute backend under s = (.error failure, s) := by
  rw [execute, normal_of_referenceFailure h]

lemma execute_of_literal {value : Int32} (h : p.referenceFailure? = none)
    (hc : p.compiled = .literal value) :
    p.execute backend under s = (.ok (p.record under p.referenceValue? value), s) := by
  rw [execute, normal_of_referenceFailure_none h]
  simp only [invokeCompiled, hc]

lemma execute_of_call {args : List Int32} (h : p.referenceFailure? = none)
    (hc : p.compiled = .call args) (hlen : args.length = p.operation.arity) :
    p.execute backend under s
      = (.ok (p.record under p.referenceValue? (backend.call p.operation ⟨args, hlen⟩ s).1),
          (backend.call p.operation ⟨args, hlen⟩ s).2) := by
  rw [execute, normal_of_referenceFailure_none h]
  simp only [invokeCompiled, hc, backend.invoke_of_length hlen]

lemma execute_of_call_refused {args : List Int32} (h : p.referenceFailure? = none)
    (hc : p.compiled = .call args) (hlen : args.length ≠ p.operation.arity) :
    p.execute backend under s = (.error (p.operation.arityFailure args), s) := by
  rw [execute, normal_of_referenceFailure_none h]
  simp only [invokeCompiled, hc, backend.invoke_of_length_ne hlen]

end Probe

end Conformance
