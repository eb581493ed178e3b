/-
# Where words are numbers

The Fibonacci and factorial functions on words are reductions of functions on natural numbers.  A
reduction is the number itself exactly if the number is below `2 ^ 31`, and it is zero exactly if
`2 ^ 32` divides the number.  Both sequences increase, so the numbers that fit are those up to some
index; and each factorial divides the next one, so once a power of two divides a factorial it
divides all the later ones.  Each of the three bounds is therefore decided by two neighbouring
numbers:

* the Fibonacci numbers 46 and 47, around `2 ^ 31`;
* the factorials of 12 and 13, around `2 ^ 31`;
* the factorials of 33 and 34, of which the second is the first multiple of `2 ^ 32`.

The main results are `fibonacci_reduced` and `factorial_reduced`.
-/
import Conformance.Proofs.Dispatch
import Conformance.Proofs.Wrapping
import Mathlib.Tactic.NormNum.NatFactorial
import Mathlib.Tactic.NormNum.NatFib

namespace Conformance

open Nat (fib)
open scoped Nat

/-! ## Reductions -/

/-- The reduction of a natural number is the number itself only if it fits. -/
lemma toInt_ofNat_eq_iff {k : ℕ} : (Int32.ofNat k).toInt = k ↔ k < 2 ^ 31 := by
  constructor
  · intro h
    have hlt := (Int32.ofNat k).toInt_lt
    omega
  · exact Int32.toInt_ofNat_of_lt

/-- The reduction of a number is zero only if the number is a multiple of the modulus. -/
lemma ofNat_eq_zero_iff {k : ℕ} : Int32.ofNat k = 0 ↔ 2 ^ 32 ∣ k := by
  have hsize : Int32.size = 2 ^ 32 := rfl
  rw [← Int32.toInt_inj, Int32.toInt_ofNat', Int32.toInt_zero, ← Int.dvd_iff_bmod_eq_zero,
    Int.natCast_dvd_natCast, hsize]

lemma le_iff_toNat_le {n m : Int32} (hn : 0 ≤ n) (hm : 0 ≤ m) :
    n ≤ m ↔ n.toNatClampNeg ≤ m.toNatClampNeg := by
  rw [Int32.le_iff_toInt_le, Int32.toInt_eq_toNatClampNeg hn, Int32.toInt_eq_toNatClampNeg hm,
    Int.ofNat_le]

/-! ## The bounds -/

/-- A property that passes to smaller numbers holds up to the last number that has it. -/
lemma iff_le_of_antitone {P : ℕ → Prop} (hP : Antitone P) {last : ℕ} (hlast : P last)
    (hnext : ¬ P (last + 1)) (k : ℕ) : P k ↔ k ≤ last := by
  constructor
  · intro hk
    by_contra hlt
    exact hnext (hP (show last + 1 ≤ k by omega) hk)
  · intro hk
    exact hP hk hlast

lemma fib_lt_iff (k : ℕ) : fib k < 2 ^ 31 ↔ k ≤ 46 := by
  refine iff_le_of_antitone (P := fun k => fib k < 2 ^ 31) ?_ (by norm_num) (by norm_num) k
  intro j k hjk hlt
  exact (Nat.fib_mono hjk).trans_lt hlt

lemma factorial_lt_iff (k : ℕ) : k ! < 2 ^ 31 ↔ k ≤ 12 := by
  refine iff_le_of_antitone (P := fun k => k ! < 2 ^ 31) ?_ (by decide) (by decide) k
  intro j k hjk hlt
  exact (Nat.factorial_le hjk).trans_lt hlt

/-- Among the first 33 factors there are 31 factors of two, and the next number adds one. -/
lemma two_pow_dvd_factorial_iff (k : ℕ) : 2 ^ 32 ∣ k ! ↔ 34 ≤ k := by
  have hiff : ¬ 2 ^ 32 ∣ k ! ↔ k ≤ 33 := by
    refine iff_le_of_antitone (P := fun k => ¬ 2 ^ 32 ∣ k !) ?_ (by decide) (by decide) k
    intro j k hjk hdvd hdvd'
    exact hdvd (hdvd'.trans (Nat.factorial_dvd_factorial hjk))
  omega

/-! ## Fibonacci words -/

/-- The three Fibonacci functions are one function. -/
lemma fibonacci_functions_eq {f : Int32 → Int32}
    (hf : f ∈ [Reference.fibonacci, Reference.fibonacciAscending, Native.fibonacci]) :
    f = Reference.fibonacci := by
  simp only [List.mem_cons, List.not_mem_nil, or_false] at hf
  rcases hf with rfl | rfl | rfl
  · rfl
  · exact funext Reference.fibonacciAscending_eq
  · exact funext Native.fibonacci_eq

/-- **Fibonacci words.**  At a word that is not negative, the recursion, the loop and the table all
give the Fibonacci number in two's complement with 32 bits.  This is the Fibonacci number itself
exactly up to the largest index.  A negative word is its own answer. -/
theorem fibonacci_reduced (n : Int32) :
    ∀ f ∈ [Reference.fibonacci, Reference.fibonacciAscending, Native.fibonacci],
      (0 ≤ n → (f n).toInt = (fib n.toInt.toNat : ℤ).bmod (2 ^ 32) ∧
        ((f n).toInt = fib n.toInt.toNat ↔ n ≤ maxFibonacciIndex)) ∧
      (n < 0 → f n = n) := by
  intro f hf
  rw [fibonacci_functions_eq hf]
  constructor
  · intro hn
    rw [Reference.fibonacci_eq_ofNat hn, ← Int32.toNatClampNeg]
    refine ⟨Int32.toInt_ofNat', ?_⟩
    rw [toInt_ofNat_eq_iff, fib_lt_iff, le_iff_toNat_le hn (by decide)]
    rfl
  · intro hn
    exact Reference.fibonacci_of_lt_two (Int32.lt_trans hn (by decide))

/-- The first number that does not fit. -/
theorem fibonacci_reduced_fortySeven :
    (0 : Int32) ≤ 47 ∧ (Reference.fibonacci 47).toInt = -1323752223 ∧
    (Reference.fibonacci 47).toInt ≠ fib 47 ∧ Native.fibonacci Int32.minValue = Int32.minValue := by
  obtain ⟨hpos, -⟩ := fibonacci_reduced 47 Reference.fibonacci (by simp)
  obtain ⟨-, hneg⟩ := fibonacci_reduced Int32.minValue Native.fibonacci (by simp)
  have hseed : (0 : Int32) ≤ 47 := by decide
  obtain ⟨hvalue, hexact⟩ := hpos hseed
  refine ⟨hseed, ?_, ?_, hneg (by decide)⟩
  · rw [hvalue]
    decide
  · intro heq
    exact absurd (hexact.mp heq) (by decide)

/-! ## Factorial words -/

lemma factorial_functions_eq {f : Int32 → Int32}
    (hf : f ∈ [Reference.factorial, Reference.factorialAscending]) (n : Int32) :
    f n = Int32.ofNat (n.toNatClampNeg)! := by
  simp only [List.mem_cons, List.not_mem_nil, or_false] at hf
  rcases hf with rfl | rfl
  · exact Reference.factorial_eq_ofNat n
  · exact Reference.factorialAscending_eq_ofNat n

/-- From 34 on the factorial of a word is zero. -/
lemma ofNat_factorial_eq_zero_iff (n : Int32) :
    Int32.ofNat (n.toNatClampNeg)! = 0 ↔ 34 ≤ n := by
  rw [ofNat_eq_zero_iff, two_pow_dvd_factorial_iff, Int32.le_iff_toInt_le]
  have hbound : (34 : Int32).toInt = 34 := rfl
  have hclamp : n.toNatClampNeg = n.toInt.toNat := rfl
  omega

/-- A probe that compares two factorials. -/
lemma execute_factorial (n m : Int32) (label : String) (layout : Layout) (heading : Option String) :
    ∃ r : Record,
      (Probe.mk .factorial label (some [n]) (.call [m]) layout).execute
          (Backend.ofFunctions "native" Native.functions) heading () = (.ok r, ()) ∧
        r.normal = some (Reference.factorial n) ∧ r.compiled = Native.factorial m :=
  ⟨_, Probe.execute_of_call _ _ _ rfl rfl rfl, rfl, rfl⟩

/-- **Factorial words.**  At every word the recursion and the ascending product give the factorial
of the word, or of zero if the word is negative, in two's complement with 32 bits.  At a word that
is not negative this is the factorial itself exactly up to the largest index.  It is zero exactly
from 34 on, so a probe that compares the factorials of such words sets two zeros side by side. -/
theorem factorial_reduced (n : Int32) :
    (∀ f ∈ [Reference.factorial, Reference.factorialAscending],
      (f n).toInt = ((max n.toInt 0).toNat ! : ℤ).bmod (2 ^ 32) ∧
      (0 ≤ n → ((f n).toInt = (n.toInt.toNat)! ↔ n ≤ maxFactorialIndex)) ∧
      (f n = 0 ↔ 34 ≤ n)) ∧
    (34 ≤ n → ∀ m : Int32, 34 ≤ m →
      ∀ (label : String) (layout : Layout) (heading : Option String), ∃ r : Record,
        (Probe.mk .factorial label (some [n]) (.call [m]) layout).execute
            (Backend.ofFunctions "native" Native.functions) heading () = (.ok r, ()) ∧
          r.normal = some 0 ∧ r.compiled = 0) := by
  constructor
  · intro f hf
    have hmax : (max n.toInt 0).toNat = n.toNatClampNeg := by
      have hclamp : n.toNatClampNeg = n.toInt.toNat := rfl
      omega
    rw [factorial_functions_eq hf, hmax]
    refine ⟨Int32.toInt_ofNat', ?_, ofNat_factorial_eq_zero_iff n⟩
    intro hn
    rw [← Int32.toNatClampNeg, toInt_ofNat_eq_iff, factorial_lt_iff,
      le_iff_toNat_le hn (by decide)]
    rfl
  · intro hn m hm label layout heading
    obtain ⟨r, hr, hnormal, hcompiled⟩ := execute_factorial n m label layout heading
    refine ⟨r, hr, ?_, ?_⟩
    · rw [hnormal, Reference.factorial_eq_ofNat, (ofNat_factorial_eq_zero_iff n).mpr hn]
    · rw [hcompiled, Native.factorial_eq, Reference.factorial_eq_ofNat,
        (ofNat_factorial_eq_zero_iff m).mpr hm]

/-- The last word before zero is the smallest one, and the next one is zero. -/
theorem factorial_reduced_thirtyThree :
    (0 : Int32) ≤ 33 ∧ (Reference.factorial 33).toInt = -2 ^ 31 ∧
    (Reference.factorial 33).toInt ≠ 33 ! ∧ Reference.factorialAscending 34 = 0 := by
  obtain ⟨hvalue, hexact, -⟩ := (factorial_reduced 33).1 Reference.factorial (by simp)
  obtain ⟨-, -, hzero⟩ := (factorial_reduced 34).1 Reference.factorialAscending (by simp)
  have hnonneg : (0 : Int32) ≤ 33 := by decide
  have hindex : (33 : Int32).toInt.toNat = 33 := rfl
  rw [hindex] at hexact
  refine ⟨hnonneg, ?_, ?_, hzero.mpr (by decide)⟩
  · rw [hvalue]
    decide
  · intro heq
    exact absurd ((hexact hnonneg).mp heq) (by decide)

end Conformance
