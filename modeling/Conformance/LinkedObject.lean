/-
# Linked objects

A compiled object exports functions of words under their symbols.  Four tables lead from an
operation to one of them: the arguments are handed to the function of a backend, the backend of an
object forwards to the functions of this library, each of these calls a declared routine, and a
declaration stands for the function that the object exports under its symbol.  The names change on
the way, and all functions take and return words.

`LinkedObject.labelled` is an object for rehearsals: its answers show which function was called
and where each argument went.
-/
import Conformance.Backend

namespace Conformance

/-- A compiled object: the function it exports under each symbol.  A function is given its arguments
in order, and may read and change a state in `σ`. -/
structure LinkedObject (σ : Type) where
  /-- Calls the function of a symbol. -/
  call : String → List Int32 → σ → Int32 × σ

/-- The declaration of a function that an object exports. -/
structure Declaration where
  /-- Its symbol. -/
  symbol : String
  /-- How many words it takes. -/
  parameters : Nat
  deriving DecidableEq

namespace Declaration

/-! The declared functions. -/

def testFunctionGreater : Declaration := ⟨"test_function_greater", 2⟩
def testFunctionLesser : Declaration := ⟨"test_function_lesser", 2⟩
def testFunctionEqual : Declaration := ⟨"test_function_equal", 2⟩
def testFunctionIf : Declaration := ⟨"test_function_if", 2⟩
def fibonacci : Declaration := ⟨"fibonacci", 1⟩
def factorial : Declaration := ⟨"factorial", 1⟩
def even : Declaration := ⟨"even", 1⟩
def odd : Declaration := ⟨"odd", 1⟩
def randomFunction : Declaration := ⟨"random_function", 1⟩
def sum : Declaration := ⟨"sum", 3⟩
def testTest : Declaration := ⟨"test_test", 0⟩

/-- All declarations, in order. -/
def all : List Declaration :=
  [testFunctionGreater, testFunctionLesser, testFunctionEqual, testFunctionIf, fibonacci, factorial,
   even, odd, randomFunction, sum, testTest]

end Declaration

/-- Functions of `n` words that may read and change a state in `σ`. -/
def Routine (σ : Type) : Nat → Type
  | 0 => σ → Int32 × σ
  | n + 1 => Int32 → Routine σ n

/-- The routine that takes `n` words and hands them on as a list. -/
def Routine.ofList {σ : Type} : (n : Nat) → (List Int32 → σ → Int32 × σ) → Routine σ n
  | 0, f => f []
  | n + 1, f => fun a => ofList n fun rest => f (a :: rest)

namespace LinkedObject

variable {σ : Type}

/-- The function that a declaration stands for. -/
def routine (object : LinkedObject σ) (d : Declaration) : Routine σ d.parameters :=
  Routine.ofList d.parameters (object.call d.symbol)

/-! The functions of this library that call the declared ones. -/

def greater (object : LinkedObject σ) (a b : Int32) : σ → Int32 × σ :=
  object.routine .testFunctionGreater a b

def lesser (object : LinkedObject σ) (a b : Int32) : σ → Int32 × σ :=
  object.routine .testFunctionLesser a b

def equal (object : LinkedObject σ) (a b : Int32) : σ → Int32 × σ :=
  object.routine .testFunctionEqual a b

def thresholdBranch (object : LinkedObject σ) (a b : Int32) : σ → Int32 × σ :=
  object.routine .testFunctionIf a b

def fibonacci (object : LinkedObject σ) (n : Int32) : σ → Int32 × σ :=
  object.routine .fibonacci n

def factorial (object : LinkedObject σ) (n : Int32) : σ → Int32 × σ :=
  object.routine .factorial n

def even (object : LinkedObject σ) (n : Int32) : σ → Int32 × σ :=
  object.routine .even n

def odd (object : LinkedObject σ) (n : Int32) : σ → Int32 × σ :=
  object.routine .odd n

def random (object : LinkedObject σ) (n : Int32) : σ → Int32 × σ :=
  object.routine .randomFunction n

def sum (object : LinkedObject σ) (a b c : Int32) : σ → Int32 × σ :=
  object.routine .sum a b c

def selfTest (object : LinkedObject σ) : σ → Int32 × σ :=
  object.routine .testTest

/-- The backend that forwards every call to the object. -/
def backend (object : LinkedObject σ) : Backend σ where
  name := "linked"
  greater a b := object.greater a b
  lesser a b := object.lesser a b
  equal a b := object.equal a b
  thresholdBranch a b := object.thresholdBranch a b
  fibonacci n := object.fibonacci n
  factorial n := object.factorial n
  even n := object.even n
  odd n := object.odd n
  random n := object.random n
  sum a b c := object.sum a b c
  selfTest := object.selfTest

/-- The place of a symbol among the declarations, counted from one. -/
def number (symbol : String) : Nat := Declaration.all.findIdx (·.symbol == symbol) + 1

/-- The object whose functions answer with their number and their arguments, each with a weight of
its own; absent arguments count as zero. -/
def labelled : LinkedObject Unit where
  call symbol args s :=
    (Int32.ofNat (number symbol) * 100000 + 31 * args.getD 0 0 + 7 * args.getD 1 0
      + 3 * args.getD 2 0, s)

end LinkedObject

end Conformance
