/-
# Native functions and their references

The native functions and the reference functions are different code for the same functions of
words.  `functions_eq_of_reference?` says so operation by operation, and
`invoke_native_eq_invokeReference` carries it through the arity check: for every argument list the
two sides answer the same value or fail in the same way.
-/
import Conformance.Proofs.Dispatch
import Conformance.Proofs.Wrapping

namespace Conformance

namespace Native

/-- A truth value as a word. -/
lemma truth_decide (P : Prop) [Decidable P] : truth (decide P) = if P then 1 else 0 := by
  by_cases h : P
  · rw [decide_eq_true h, if_pos h, truth]
  · rw [decide_eq_false h, if_neg h, truth]

lemma equal_eq (a b : Int32) : equal a b = Reference.equal a b := by
  have hdecide : (a == b) = decide (a = b) := beq_eq_decide a b
  rw [equal, hdecide, truth_decide, Reference.equal]

/-- Where there is a reference, the native function is the same function. -/
lemma functions_eq_of_reference? {op : Operation} {f : WordFunction op.arity}
    (h : op.reference? = some f) : functions op = f := by
  -- `cases h` puts the reference in the place of `f`, or ends the case if there is none
  cases op with
  | greater =>
    cases h
    funext a b
    exact truth_decide (b < a)
  | lesser =>
    cases h
    funext a b
    exact truth_decide (a < b)
  | equal =>
    cases h
    funext a b
    exact equal_eq a b
  | thresholdBranch =>
    cases h
    rfl
  | fibonacci =>
    cases h
    funext n
    exact fibonacci_eq n
  | factorial =>
    cases h
    funext n
    exact factorial_eq n
  | even | odd | random | sum | selfTest => cases h

end Native

lemma Operation.hasReference_iff {op : Operation} :
    op.hasReference = true ↔
      op ∈ [greater, lesser, equal, thresholdBranch, fibonacci, factorial] := by
  cases op <;> decide

/-- **Native functions and references agree.**  Exactly six operations have a reference.  For each
of them and every argument list, the native backend and the reference answer the same value if the
list has as many words as the operation takes, and the same arity failure otherwise. -/
theorem invoke_native_eq_invokeReference (op : Operation) (args : List Int32) :
    (op.hasReference = true ↔
      op ∈ [Operation.greater, .lesser, .equal, .thresholdBranch, .fibonacci, .factorial]) ∧
    (op.hasReference = true →
      (args.length = op.arity → ∃ v : Int32,
        (Backend.ofFunctions "native" Native.functions).invoke op args () = (.ok v, ()) ∧
          op.invokeReference args = .ok (some v)) ∧
      (args.length ≠ op.arity →
        (Backend.ofFunctions "native" Native.functions).invoke op args ()
            = (.error (.arity op.symbol op.arity args.length), ()) ∧
          op.invokeReference args = .error (.arity op.symbol op.arity args.length))) := by
  refine ⟨Operation.hasReference_iff, fun hop => ⟨fun hlen => ?_, fun hlen => ?_⟩⟩
  · obtain ⟨f, hf⟩ := Option.isSome_iff_exists.mp hop
    refine ⟨f.apply args hlen, ?_, ?_⟩
    · rw [Backend.invoke_ofFunctions_of_length hlen, Native.functions_eq_of_reference? hf]
    · rw [Operation.invokeReference_of_length hlen, hf, Option.map_some]
  · exact ⟨Backend.invoke_of_length_ne _ hlen (), Operation.invokeReference_of_length_ne hlen⟩

/-- The largest word, where the recursion cannot be run and every value has wrapped many times. -/
theorem invoke_native_fibonacci_maxValue :
    Operation.fibonacci.hasReference = true ∧ [Int32.maxValue].length = Operation.fibonacci.arity ∧
    ∃ v : Int32,
      (Backend.ofFunctions "native" Native.functions).invoke .fibonacci [Int32.maxValue] ()
          = (.ok v, ()) ∧
        Operation.fibonacci.invokeReference [Int32.maxValue] = .ok (some v) :=
  ⟨rfl, rfl, ((invoke_native_eq_invokeReference .fibonacci [Int32.maxValue]).2 rfl).1 rfl⟩

end Conformance
