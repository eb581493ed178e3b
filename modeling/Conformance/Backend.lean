/-
# Backends

A backend has a function for each operation.  It may keep a state between calls, of any type, so an
answer can depend on everything that was called before.  A call reaches a backend only with as many
arguments as the operation takes: `Backend.invoke` checks that first, and `Backend.call` then picks
the function and hands it the arguments by their positions.

Besides the backends that compute each answer by a function, three are built from others:
`recording` writes down every call, `scripted` reads its answers off a list, and `overriding`
gives fixed answers for some operations.  They all stand behind the functions, so what they see of
a call is what has reached its function.
-/
import Conformance.Reference

namespace Conformance

/-- A call as it reaches a backend. -/
structure Call where
  /-- The operation that is called. -/
  operation : Operation
  /-- Its arguments. -/
  args : List Int32
  deriving DecidableEq

/-- A machine with states in `σ` that has a function for each operation. -/
structure Backend (σ : Type) where
  /-- What the backend calls itself. -/
  name : String
  greater : Int32 → Int32 → σ → Int32 × σ
  lesser : Int32 → Int32 → σ → Int32 × σ
  equal : Int32 → Int32 → σ → Int32 × σ
  thresholdBranch : Int32 → Int32 → σ → Int32 × σ
  fibonacci : Int32 → σ → Int32 × σ
  factorial : Int32 → σ → Int32 × σ
  even : Int32 → σ → Int32 × σ
  odd : Int32 → σ → Int32 × σ
  random : Int32 → σ → Int32 × σ
  sum : Int32 → Int32 → Int32 → σ → Int32 × σ
  selfTest : σ → Int32 × σ

namespace Backend

variable {σ τ : Type}

/-- Calls the function of an operation with the arguments at their positions. -/
def call (backend : Backend σ) : (op : Operation) → op.Args → σ → Int32 × σ
  | .greater, args => backend.greater (args.word 0 (by decide)) (args.word 1 (by decide))
  | .lesser, args => backend.lesser (args.word 0 (by decide)) (args.word 1 (by decide))
  | .equal, args => backend.equal (args.word 0 (by decide)) (args.word 1 (by decide))
  | .thresholdBranch, args =>
    backend.thresholdBranch (args.word 0 (by decide)) (args.word 1 (by decide))
  | .fibonacci, args => backend.fibonacci (args.word 0 (by decide))
  | .factorial, args => backend.factorial (args.word 0 (by decide))
  | .even, args => backend.even (args.word 0 (by decide))
  | .odd, args => backend.odd (args.word 0 (by decide))
  | .random, args => backend.random (args.word 0 (by decide))
  | .sum, args =>
    backend.sum (args.word 0 (by decide)) (args.word 1 (by decide)) (args.word 2 (by decide))
  | .selfTest, _ => backend.selfTest

/-- Calls an operation after the arity check.  A call with the wrong number of arguments does not
reach the backend. -/
def invoke (backend : Backend σ) (op : Operation) (args : List Int32) (s : σ) :
    Except Failure Int32 × σ :=
  match op.check args with
  | .error failure => (.error failure, s)
  | .ok args =>
    let (value, s) := backend.call op args s
    (.ok value, s)

/-- The backend that computes every answer by a function of the arguments alone. -/
def ofFunctions (name : String) (functions : (op : Operation) → WordFunction op.arity) :
    Backend Unit where
  name := name
  greater a b s := (functions .greater a b, s)
  lesser a b s := (functions .lesser a b, s)
  equal a b s := (functions .equal a b, s)
  thresholdBranch a b s := (functions .thresholdBranch a b, s)
  fibonacci n s := (functions .fibonacci n, s)
  factorial n s := (functions .factorial n, s)
  even n s := (functions .even n, s)
  odd n s := (functions .odd n, s)
  random n s := (functions .random n, s)
  sum a b c s := (functions .sum a b c, s)
  selfTest s := (functions .selfTest, s)

/-- The backend whose functions serve each call with the help of the functions of another one. -/
def serving (backend : Backend σ) (serve : Call → (σ → Int32 × σ) → τ → Int32 × τ) : Backend τ where
  name := backend.name
  greater a b := serve ⟨.greater, [a, b]⟩ (backend.greater a b)
  lesser a b := serve ⟨.lesser, [a, b]⟩ (backend.lesser a b)
  equal a b := serve ⟨.equal, [a, b]⟩ (backend.equal a b)
  thresholdBranch a b := serve ⟨.thresholdBranch, [a, b]⟩ (backend.thresholdBranch a b)
  fibonacci n := serve ⟨.fibonacci, [n]⟩ (backend.fibonacci n)
  factorial n := serve ⟨.factorial, [n]⟩ (backend.factorial n)
  even n := serve ⟨.even, [n]⟩ (backend.even n)
  odd n := serve ⟨.odd, [n]⟩ (backend.odd n)
  random n := serve ⟨.random, [n]⟩ (backend.random n)
  sum a b c := serve ⟨.sum, [a, b, c]⟩ (backend.sum a b c)
  selfTest := serve ⟨.selfTest, []⟩ backend.selfTest

/-- The same backend, writing down every call in order. -/
def recording (backend : Backend σ) : Backend (σ × List Call) :=
  backend.serving fun call answer s =>
    let (value, t) := answer s.1
    (value, t, s.2 ++ [call])

/-- The same backend, except that some operations have a fixed answer. -/
def overriding (fixed : Operation → Option Int32) (backend : Backend σ) : Backend σ :=
  backend.serving fun call answer s =>
    match fixed call.operation with
    | some value => (value, s)
    | none => answer s

/-- A backend of a given name that answers from a list, again from the start when the list is
used up.  The state counts the calls. -/
def scripted (name : String) (answers : List Int32) : Backend Nat :=
  let answer (k : Nat) : Int32 × Nat := (answers.getD (k % answers.length) 0, k + 1)
  { name
    greater := fun _ _ => answer
    lesser := fun _ _ => answer
    equal := fun _ _ => answer
    thresholdBranch := fun _ _ => answer
    fibonacci := fun _ => answer
    factorial := fun _ => answer
    even := fun _ => answer
    odd := fun _ => answer
    random := fun _ => answer
    sum := fun _ _ _ => answer
    selfTest := answer }

/-- Calls an operation `count` times; after each call the answer takes the place of the first
argument, if there is one.  The first failure ends the chain. -/
def chain (backend : Backend σ) (op : Operation) : Nat → List Int32 → σ →
    List (Except Failure Int32)
  | 0, _, _ => []
  | count + 1, args, s =>
    match backend.invoke op args s with
    | (.error failure, _) => [.error failure]
    | (.ok value, s) =>
      let next := match args with
        | [] => []
        | _ :: rest => value :: rest
      .ok value :: chain backend op count next s

end Backend

end Conformance
