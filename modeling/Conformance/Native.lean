/-
# Native functions

The functions written in the library itself, as a stand-in for compiled code.  They agree with
the reference functions where there is a reference, and reach the same values another way: small
Fibonacci words come from a table, larger ones and factorials from a loop.
-/
import Conformance.Reference

namespace Conformance

/-- The largest index whose Fibonacci number fits in a word. -/
def maxFibonacciIndex : Int32 := 46

/-- The largest index whose factorial fits in a word. -/
def maxFactorialIndex : Int32 := 12

/-- The multiplier of the linear congruential generator. -/
def generatorMultiplier : Int32 := 1103515245

/-- The increment of the linear congruential generator. -/
def generatorIncrement : Int32 := 12345

namespace Native

/-- The `count` Fibonacci words that begin with the neighbours `a` and `b`. -/
def fibonacciRun (a b : Int32) : Nat → List Int32
  | 0 => []
  | count + 1 => a :: fibonacciRun b (a + b) count

@[simp] theorem length_fibonacciRun (a b : Int32) (count : Nat) :
    (fibonacciRun a b count).length = count := by
  induction count generalizing a b with
  | zero => rfl
  | succ count ih => simp [fibonacciRun, ih]

/-- The Fibonacci words that fit, by index. -/
def fibonacciTable : Vector Int32 47 := ⟨(fibonacciRun 0 1 47).toArray, by simp⟩

/-- An index that is not negative and not above the largest one lies in the table. -/
theorem toNat_lt_table {n : Int32} (h : 0 ≤ n ∧ n ≤ maxFibonacciIndex) :
    n.toNatClampNeg < 47 := by
  have h₁ : n.toInt ≤ 46 := Int32.le_iff_toInt_le.mp h.2
  show n.toInt.toNat < 47
  omega

/-- The Fibonacci function: looked up where the table has an answer, and from the loop
otherwise. -/
def fibonacci (n : Int32) : Int32 :=
  if h : 0 ≤ n ∧ n ≤ maxFibonacciIndex then fibonacciTable.get ⟨n.toNatClampNeg, toNat_lt_table h⟩
  else Reference.fibonacciAscending n

/-- The factorial, as an ascending product. -/
def factorial (n : Int32) : Int32 := Reference.factorialAscending n

/-- A truth value as a word. -/
def truth : Bool → Int32
  | true => 1
  | false => 0

/-- Whether the first word is the greater one. -/
def greater (a b : Int32) : Int32 := truth (decide (b < a))

/-- Whether the first word is the lesser one. -/
def lesser (a b : Int32) : Int32 := truth (decide (a < b))

/-- Whether the two words are equal. -/
def equal (a b : Int32) : Int32 := truth (a == b)

/-- Which side of the threshold the sum lies on. -/
def thresholdBranch (a b : Int32) : Int32 :=
  if thresholdLimit < a + b then thresholdHigh else thresholdLow

/-- Whether a word is even. -/
def even (n : Int32) : Int32 := truth (n % 2 == 0)

/-- Whether a word, of either sign, is odd. -/
def odd (n : Int32) : Int32 := truth (n % 2 != 0)

/-- One step of the linear congruential generator from the seed `n`, without its sign bit. -/
def random (n : Int32) : Int32 :=
  (n * generatorMultiplier + generatorIncrement) &&& Int32.maxValue

/-- The sum of three words. -/
def sum (a b c : Int32) : Int32 := a + b + c

/-- The self test always succeeds. -/
def selfTest : Int32 := 0

/-- The native function of each operation. -/
def functions : (op : Operation) → WordFunction op.arity
  | .greater => greater
  | .lesser => lesser
  | .equal => equal
  | .thresholdBranch => thresholdBranch
  | .fibonacci => fibonacci
  | .factorial => factorial
  | .even => even
  | .odd => odd
  | .random => random
  | .sum => sum
  | .selfTest => selfTest

end Native

end Conformance
