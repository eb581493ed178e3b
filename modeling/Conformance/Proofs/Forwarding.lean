/-
# Forwarding to a linked object

A call of an operation is forwarded to one function of the linked object.  On its way it passes
four tables: the function of the backend that is picked for the operation, the function of this
library that the backend forwards to, the declaration that this one calls, and the symbol of the
declaration.  Beside them stand the symbols and the arities of the operations.  All functions take
and return words, so a crossed entry or two exchanged arguments would still have the right types.

An object may keep a state, and nothing is assumed about what its functions do with it.  A second
call, or a call of another function, would therefore show in the state of some object.  To have the
calls in plain sight, `LinkedObject.traced` makes every function of an object write its symbol and
its arguments on a log before it returns.

The main result is `LinkedObject.forwards_to_symbol`.
-/
import Conformance.Build
import Conformance.Proofs.Dispatch

namespace Conformance

variable {σ : Type}

/-- An operation has exactly one declaration: it bears its symbol and takes as many words as the
operation. -/
lemma Declaration.filter_symbol (op : Operation) :
    Declaration.all.filter (fun d => d.symbol = op.symbol) = [⟨op.symbol, op.arity⟩] := by
  cases op <;> decide

namespace LinkedObject

/-- The same object, with every call of a function written on a log. -/
def traced (object : LinkedObject σ) : LinkedObject (σ × List (String × List Int32)) where
  call symbol args s :=
    let (value, t) := object.call symbol args s.1
    (value, t, s.2 ++ [(symbol, args)])

/-- Through all the tables a call arrives at the symbol of its operation, with its arguments. -/
lemma call_backend (object : LinkedObject σ) (op : Operation) (args : op.Args) :
    object.backend.call op args = object.call op.symbol args.val := by
  -- one case for each operation: its path through the tables, with the arguments as variables
  induction op, args using Operation.callCases <;> rfl

lemma invoke_backend_of_length (object : LinkedObject σ) {op : Operation} {args : List Int32}
    (h : args.length = op.arity) (s : σ) :
    object.backend.invoke op args s
      = (.ok (object.call op.symbol args s).1, (object.call op.symbol args s).2) := by
  rw [object.backend.invoke_of_length h, call_backend]

/-- **A linked object answers a call by the function of its symbol.**  The operation has one
declaration, with as many parameters as the operation takes.  The function of this symbol is given
all the arguments in their order, its answer is the answer, and no other function is called.  A call
with another number of arguments is refused, and reaches no function at all.

The last part says that it is the linked object which a build with such an object runs. -/
theorem forwards_to_symbol (object : LinkedObject σ) (op : Operation) (args : List Int32) :
    Declaration.all.filter (fun d => d.symbol = op.symbol) = [⟨op.symbol, op.arity⟩] ∧
    (∀ s : σ,
      ((∃ symbol expected got,
          (object.backend.invoke op args s).1 = .error (.arity symbol expected got)) ↔
        args.length ≠ op.arity) ∧
      (args.length ≠ op.arity → object.backend.invoke op args s
        = (.error (.arity op.symbol op.arity args.length), s)) ∧
      (args.length = op.arity → object.backend.invoke op args s
        = (.ok (object.call op.symbol args s).1, (object.call op.symbol args s).2))) ∧
    (∀ (s : σ) (log : List (String × List Int32)),
      object.traced.backend.invoke op args (s, log)
        = ((object.backend.invoke op args s).1, (object.backend.invoke op args s).2,
            log ++ if args.length = op.arity then [(op.symbol, args)] else [])) ∧
    ∀ plain : LinkedObject Unit,
      (Build.linked plain).backend "linked" = .ok plain.backend ∧
      (Build.linked plain).select none = .ok plain.backend := by
  refine ⟨Declaration.filter_symbol op, ?_, ?_, fun plain => ⟨rfl, rfl⟩⟩
  · intro s
    refine ⟨?_, fun hlen => object.backend.invoke_of_length_ne hlen s,
      fun hlen => object.invoke_backend_of_length hlen s⟩
    by_cases hlen : args.length = op.arity
    · simp [object.invoke_backend_of_length hlen, hlen]
    · rw [object.backend.invoke_of_length_ne hlen]
      simp [Operation.arityFailure, hlen]
  · intro s log
    by_cases hlen : args.length = op.arity
    · rw [object.traced.invoke_backend_of_length hlen, object.invoke_backend_of_length hlen,
        if_pos hlen]
      rfl
    · rw [object.traced.backend.invoke_of_length_ne hlen, object.backend.invoke_of_length_ne hlen,
        if_neg hlen, List.append_nil]

end LinkedObject

end Conformance
