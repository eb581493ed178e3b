/-
# Reference functions

The functions the compiled code is held against, in their textbook form: `factorial` and
`fibonacci` recurse on a word as their definitions say, and every sum and product is reduced to
32 bits.  Beside each of the two stands a loop that computes the same values from below.

`Operation.reference?` says which operations have a reference, and `Operation.invokeReference`
calls it after the arity check.
-/
import Conformance.Operation
import Conformance.WordFunction

namespace Conformance

/-- Sums above this word take the high branch of the threshold function. -/
def thresholdLimit : Int32 := 100

/-- The answer of the high branch. -/
def thresholdHigh : Int32 := 142

/-- The answer of the low branch. -/
def thresholdLow : Int32 := 42

namespace Reference

/-- One word below a positive word is smaller as a natural number. -/
theorem toNat_sub_one_lt {n : Int32} (h : 0 < n) :
    (n - 1).toNatClampNeg < n.toNatClampNeg := by
  have h₀ : 0 < n.toInt := Int32.lt_iff_toInt_lt.mp h
  have h₁ : (n - 1).toInt = n.toInt - 1 := by
    refine Int32.toInt_sub_of_le n 1 (by decide) (Int32.le_iff_toInt_le.mpr ?_)
    rw [Int32.toInt_one]; omega
  show (n - 1).toInt.toNat < n.toInt.toNat
  omega

/-- Two words below a word above one is smaller as a natural number. -/
theorem toNat_sub_two_lt {n : Int32} (h : 1 < n) :
    (n - 2).toNatClampNeg < n.toNatClampNeg := by
  have h₀ : 1 < n.toInt := Int32.lt_iff_toInt_lt.mp h
  have h₁ : (n - 2).toInt = n.toInt - 2 := by
    refine Int32.toInt_sub_of_le n 2 (by decide) (Int32.le_iff_toInt_le.mpr ?_)
    show (2 : Int) ≤ n.toInt
    omega
  show (n - 2).toInt.toNat < n.toInt.toNat
  omega

/-- The factorial: one for words that are not positive, and otherwise the word times the
factorial of the word before. -/
def factorial (n : Int32) : Int32 :=
  if 0 < n then n * factorial (n - 1) else 1
termination_by n.toNatClampNeg
decreasing_by exact toNat_sub_one_lt (by assumption)

/-- The Fibonacci function: a word below two is its own answer, and otherwise the answers of the
two words before are added. -/
def fibonacci (n : Int32) : Int32 :=
  if 1 < n then fibonacci (n - 1) + fibonacci (n - 2) else n
termination_by n.toNatClampNeg
decreasing_by
  · exact toNat_sub_one_lt (Int32.lt_trans (show (0 : Int32) < 1 by decide) (by assumption))
  · exact toNat_sub_two_lt (by assumption)

/-- Multiplies `acc` by `k`, `k + 1`, … for `count` factors. -/
def productFrom (acc k : Int32) : Nat → Int32
  | 0 => acc
  | count + 1 => productFrom (acc * k) (k + 1) count

/-- The factorial as an ascending product. -/
def factorialAscending (n : Int32) : Int32 := productFrom 1 1 n.toNatClampNeg

/-- Moves a pair of neighbouring Fibonacci words `count` places on, and answers the second. -/
def fibonacciFrom (a b : Int32) : Nat → Int32
  | 0 => b
  | count + 1 => fibonacciFrom b (a + b) count

/-- The Fibonacci function as a loop over a pair of neighbouring words. -/
def fibonacciAscending (n : Int32) : Int32 :=
  if n < 2 then n else fibonacciFrom 0 1 (n.toNatClampNeg - 1)

/-- One if the first word is the greater one. -/
def greater (a b : Int32) : Int32 := if b < a then 1 else 0

/-- One if the first word is the lesser one. -/
def lesser (a b : Int32) : Int32 := if a < b then 1 else 0

/-- One if the two words are equal. -/
def equal (a b : Int32) : Int32 := if a = b then 1 else 0

/-- Whether the sum, reduced to 32 bits, lies above the threshold. -/
def thresholdBranch (a b : Int32) : Int32 :=
  if thresholdLimit < a + b then thresholdHigh else thresholdLow

end Reference

namespace Operation

/-- The reference function of an operation, for the operations that have one. -/
def reference? : (op : Operation) → Option (WordFunction op.arity)
  | greater => some Reference.greater
  | lesser => some Reference.lesser
  | equal => some Reference.equal
  | thresholdBranch => some Reference.thresholdBranch
  | fibonacci => some Reference.fibonacci
  | factorial => some Reference.factorial
  | even | odd | random | sum | selfTest => none

/-- Whether an operation has a reference. -/
def hasReference (op : Operation) : Bool := op.reference?.isSome

/-- The reference value at an argument list, `none` for operations without a reference.  The
arity is checked for every operation. -/
def invokeReference (op : Operation) (args : List Int32) : Except Failure (Option Int32) :=
  match op.check args with
  | .error failure => .error failure
  | .ok ⟨args, h⟩ => .ok (op.reference?.map fun f => f.apply args h)

/-- The reference applied to the leading arguments, without the arity check. -/
def invokeReferenceUnchecked (op : Operation) (args : List Int32) :
    Except MissingArgument (Option Int32) :=
  match op.reference? with
  | none => .ok none
  | some f => (f.applyLeading args).map some

end Operation

end Conformance
