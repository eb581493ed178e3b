/-
# The standard suite

The fixed plan of the harness.  Its values and their order are what the reports are read by, so
both stay as they are: the first threshold probe asks the two sides with different arguments, and
the second reports a literal and calls nothing.
-/
import Conformance.Suite
import Conformance.Text.Decimal

namespace Conformance

/-- The largest seed in the standard suite. -/
def maxRandomSeed : Nat := 14

namespace Suite

/-- The three comparisons of a binary operation. -/
def comparisonGroup (op : Operation) : ProbeGroup where
  heading := some (op.symbol ++ ":")
  probes := [((1 : Int32), (2 : Int32)), (2, 1), (40, 40)].map fun (a, b) =>
    .compare op ("with values(" ++ Text.decimal a ++ ", " ++ Text.decimal b ++ ")") [a, b]

/-- One probe on either side of the threshold. -/
def thresholdGroup : ProbeGroup where
  heading := some (Operation.thresholdBranch.symbol ++ ":")
  probes :=
    [.compareWith .thresholdBranch "with values(60,60)" [60, 60] (.call [60, 61]),
     .compareWith .thresholdBranch "with values(10,10)" [10, 10] (.literal 42)]

/-- The two recursive functions. -/
def recursionGroup : ProbeGroup where
  heading := none
  probes :=
    [.compare .factorial "factorial(9)      " [9],
     .compare .fibonacci "fibonacci(25)     " [25]]

/-- The parity functions. -/
def parityGroup : ProbeGroup where
  heading := none
  probes :=
    [.observe .even "even(10)          " [10] .bare,
     .observe .odd "odd(10)           " [10] .bare]

/-- The random function at every seed up to the largest. -/
def randomGroup : ProbeGroup where
  heading := none
  probes := (List.range (maxRandomSeed + 1)).map fun seed =>
    .observe .random ("random_function(" ++ seed.repr ++ ") ") [Int32.ofNat seed] .tagged

/-- The self test. -/
def selfTestGroup : ProbeGroup where
  heading := none
  probes := [.observe .selfTest "test_test: " [] .bare]

/-- The standard suite. -/
def standard : Suite where
  groups :=
    [comparisonGroup .greater, comparisonGroup .lesser, comparisonGroup .equal, thresholdGroup,
     recursionGroup, parityGroup, randomGroup, selfTestGroup]

end Suite

end Conformance
