/-
# Operations

The functions under comparison.  An operation is known to the outside by its symbol, takes a
fixed number of 32-bit words, its arity, and answers one word.  An argument list is checked
against the arity once, by `Operation.check`; what passes has the type `Operation.Args`.
-/
import Conformance.Failure

namespace Conformance

/-- The functions under comparison, in the order of their symbols. -/
inductive Operation where
  | greater
  | lesser
  | equal
  | thresholdBranch
  | fibonacci
  | factorial
  | even
  | odd
  | random
  | sum
  | selfTest
  deriving DecidableEq

namespace Operation

/-- Every operation, in order. -/
def all : List Operation :=
  [greater, lesser, equal, thresholdBranch, fibonacci, factorial, even, odd, random, sum, selfTest]

/-- The symbol under which a compiled object exports the operation. -/
def symbol : Operation → String
  | greater => "test_function_greater"
  | lesser => "test_function_lesser"
  | equal => "test_function_equal"
  | thresholdBranch => "test_function_if"
  | fibonacci => "fibonacci"
  | factorial => "factorial"
  | even => "even"
  | odd => "odd"
  | random => "random_function"
  | sum => "sum"
  | selfTest => "test_test"

/-- The name of the operation in plans and requests. -/
def name : Operation → String
  | greater => "greater"
  | lesser => "lesser"
  | equal => "equal"
  | thresholdBranch => "threshold_branch"
  | fibonacci => "fibonacci"
  | factorial => "factorial"
  | even => "even"
  | odd => "odd"
  | random => "random"
  | sum => "sum"
  | selfTest => "self_test"

/-- The operation of a given name. -/
def ofName? (name : String) : Option Operation :=
  all.find? fun op => op.name == name

/-- The number of words an operation takes. -/
def arity : Operation → Nat
  | greater | lesser | equal | thresholdBranch => 2
  | fibonacci | factorial | even | odd | random => 1
  | sum => 3
  | selfTest => 0

/-- Argument lists of the right length for an operation. -/
abbrev Args (op : Operation) : Type := { args : List Int32 // args.length = op.arity }

/-- The word at a position of an argument list. -/
def Args.word {op : Operation} (args : op.Args) (i : Nat) (h : i < op.arity) : Int32 :=
  args.val.get ⟨i, Nat.lt_of_lt_of_eq h args.property.symm⟩

/-- Accepts exactly the argument lists of the right length. -/
def check (op : Operation) (args : List Int32) : Except Failure op.Args :=
  if h : args.length = op.arity then .ok ⟨args, h⟩
  else .error (.arity op.symbol op.arity args.length)

end Operation

end Conformance
