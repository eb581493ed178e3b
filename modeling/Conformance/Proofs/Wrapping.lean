/-
# Fibonacci and factorial words

The recursions, the loops and the table all compute with words, and every sum and product is
reduced to 32 bits on the way.  Reducing at each step or only once at the end makes no
difference, because `Int32.ofNat` turns sums into sums and products into products.  So each of
the functions is the reduction of one function on natural numbers:

* `Reference.factorial`, `Reference.factorialAscending`: of the factorial of the word, or of zero
  if the word is negative;
* `Reference.fibonacci`, `Reference.fibonacciAscending`, `Native.fibonacci`: of the Fibonacci
  number, for words that are not negative; a word below two is its own answer.

Two functions that reduce the same natural number agree, whatever order they compute it in.
-/
import Conformance.Native
import Mathlib.Data.Nat.Factorial.Basic
import Mathlib.Data.Nat.Fib.Basic

namespace Conformance

open Nat (fib)
open scoped Nat

/-! ## Words and natural numbers -/

lemma toNat_pred {n : Int32} (h : 0 < n) :
    n.toNatClampNeg = (n - 1).toNatClampNeg + 1 := by
  have hle : (1 : Int32) ≤ n := by
    rw [Int32.le_iff_toInt_le]
    exact Int32.lt_iff_toInt_lt.mp h
  have hpos : 0 < n.toNatClampNeg := (Int32.toNatClampNeg_pos_iff n).mpr h
  rw [Int32.toNatClampNeg_sub_of_le (by decide) hle, Int32.toNatClampNeg_one]
  omega

lemma toNat_pred_pred {n : Int32} (h : 1 < n) :
    n.toNatClampNeg = (n - 2).toNatClampNeg + 2 := by
  have hlt : 1 < n.toInt := Int32.lt_iff_toInt_lt.mp h
  have hle : (2 : Int32) ≤ n := by
    rw [Int32.le_iff_toInt_le]
    exact hlt
  have htwo : (2 : Int32).toNatClampNeg = 2 := rfl
  have hn : 2 ≤ n.toNatClampNeg := htwo ▸ Int32.toNatClampNeg_le hle
  rw [Int32.toNatClampNeg_sub_of_le (by decide) hle, htwo]
  omega

lemma ofNat_toNat_of_pos {n : Int32} (h : 0 < n) : Int32.ofNat n.toNatClampNeg = n :=
  Int32.ofNat_toNatClampNeg n (Int32.le_of_lt h)

/-! ## The factorial -/

/-- The recursive factorial is the reduction of the factorial. -/
lemma Reference.factorial_eq_ofNat (n : Int32) :
    Reference.factorial n = Int32.ofNat (n.toNatClampNeg)! := by
  fun_induction Reference.factorial n with
  | case1 n h ih =>
    rw [ih, toNat_pred h, Nat.factorial_succ, Int32.ofNat_mul, ← toNat_pred h,
      ofNat_toNat_of_pos h]
  | case2 n h =>
    have hzero : n.toNatClampNeg = 0 := by
      rw [Int32.toNatClampNeg_eq_zero_iff]
      exact Int32.not_lt.mp h
    rw [hzero]
    rfl

lemma ofNat_factorial_mul (m : ℕ) :
    Int32.ofNat m ! * Int32.ofNat (m + 1) = Int32.ofNat (m + 1)! := by
  rw [← Int32.ofNat_mul, Nat.factorial_succ, Nat.mul_comm]

/-- The ascending product, started after `m` factors, goes on to the factorial. -/
lemma Reference.productFrom_eq_ofNat (m count : ℕ) :
    Reference.productFrom (Int32.ofNat m !) (Int32.ofNat (m + 1)) count
      = Int32.ofNat (m + count)! := by
  induction count generalizing m with
  | zero => rfl
  | succ count ih =>
    have hk : Int32.ofNat (m + 1) + 1 = Int32.ofNat (m + 1 + 1) :=
      (Int32.ofNat_add (m + 1) 1).symm
    rw [Reference.productFrom, ofNat_factorial_mul, hk, ih (m + 1)]
    congr 2
    omega

/-- The factorial as an ascending product is the reduction of the factorial. -/
lemma Reference.factorialAscending_eq_ofNat (n : Int32) :
    Reference.factorialAscending n = Int32.ofNat (n.toNatClampNeg)! := by
  calc Reference.factorialAscending n
      = Reference.productFrom (Int32.ofNat 0 !) (Int32.ofNat (0 + 1)) n.toNatClampNeg := rfl
    _ = Int32.ofNat (0 + n.toNatClampNeg)! := Reference.productFrom_eq_ofNat 0 n.toNatClampNeg
    _ = Int32.ofNat (n.toNatClampNeg)! := by rw [Nat.zero_add]

/-! ## The Fibonacci function -/

lemma ofNat_fib_add (m : ℕ) :
    Int32.ofNat (fib m) + Int32.ofNat (fib (m + 1)) = Int32.ofNat (fib (m + 2)) := by
  rw [← Int32.ofNat_add, Nat.fib_add_two]

lemma Reference.fibonacci_of_lt_two {n : Int32} (h : n < 2) : Reference.fibonacci n = n := by
  have hle : ¬ 1 < n := by
    rw [Int32.lt_iff_toInt_lt] at h ⊢
    have htwo : (2 : Int32).toInt = 2 := rfl
    have hone : (1 : Int32).toInt = 1 := rfl
    omega
  rw [Reference.fibonacci, if_neg hle]

/-- The recursive Fibonacci function is the reduction of the Fibonacci numbers. -/
lemma Reference.fibonacci_eq_ofNat {n : Int32} (h : 0 ≤ n) :
    Reference.fibonacci n = Int32.ofNat (fib n.toNatClampNeg) := by
  fun_induction Reference.fibonacci n with
  | case1 n hlt ih₁ ih₂ =>
    have hone : (0 : Int32) < 1 := by decide
    have hpos : 0 < n := Int32.lt_trans hone hlt
    have hpred := toNat_pred hpos
    have hpred₂ := toNat_pred_pred hlt
    have h₁ : 0 ≤ n - 1 := by
      refine Int32.le_of_lt ((Int32.toNatClampNeg_pos_iff _).mp ?_)
      omega
    -- for `n = 2` the natural number is zero, which the words below zero have too
    have h₂ : 0 ≤ n - 2 := by
      rw [Int32.le_iff_toInt_le, Int32.toInt_sub_of_le n 2 (by decide)]
      · have hint : 1 < n.toInt := Int32.lt_iff_toInt_lt.mp hlt
        have htwo : (2 : Int32).toInt = 2 := rfl
        have hzero : (0 : Int32).toInt = 0 := rfl
        omega
      · rw [Int32.le_iff_toInt_le]
        exact Int32.lt_iff_toInt_lt.mp hlt
    rw [ih₁ h₁, ih₂ h₂, Int32.add_comm]
    have hk : (n - 1).toNatClampNeg = (n - 2).toNatClampNeg + 1 := by omega
    rw [hk, hpred₂, ofNat_fib_add]
  | case2 n hlt =>
    have hle : n.toNatClampNeg ≤ 1 :=
      Int32.toNatClampNeg_one ▸ Int32.toNatClampNeg_le (Int32.not_lt.mp hlt)
    have hfib : fib n.toNatClampNeg = n.toNatClampNeg := by
      rcases Nat.le_one_iff_eq_zero_or_eq_one.mp hle with hk | hk
      · rw [hk, Nat.fib_zero]
      · rw [hk, Nat.fib_one]
    rw [hfib, Int32.ofNat_toNatClampNeg n h]

/-- The loop over neighbouring words, started at the numbers `m` and `m + 1`. -/
lemma Reference.fibonacciFrom_eq_ofNat (m count : ℕ) :
    Reference.fibonacciFrom (Int32.ofNat (fib m)) (Int32.ofNat (fib (m + 1))) count
      = Int32.ofNat (fib (m + 1 + count)) := by
  induction count generalizing m with
  | zero => rfl
  | succ count ih =>
    rw [Reference.fibonacciFrom, ofNat_fib_add, ih (m + 1)]
    congr 2
    omega

/-- The Fibonacci loop computes what the recursion computes. -/
lemma Reference.fibonacciAscending_eq (n : Int32) :
    Reference.fibonacciAscending n = Reference.fibonacci n := by
  rw [Reference.fibonacciAscending]
  split
  · next h => rw [Reference.fibonacci_of_lt_two h]
  · next h =>
    have hle : (2 : Int32) ≤ n := Int32.not_lt.mp h
    have hnonneg : (0 : Int32) ≤ n := Int32.le_trans (by decide) hle
    have htwo : 2 ≤ n.toNatClampNeg := Int32.toNatClampNeg_le hle
    have hloop := Reference.fibonacciFrom_eq_ofNat 0 (n.toNatClampNeg - 1)
    have hk : 0 + 1 + (n.toNatClampNeg - 1) = n.toNatClampNeg := by omega
    rw [hk] at hloop
    rw [Reference.fibonacci_eq_ofNat hnonneg]
    exact hloop

/-- The entries of a run of Fibonacci words that begins at the numbers `m` and `m + 1`. -/
lemma Native.getElem_fibonacciRun (m count k : ℕ)
    (hk : k <
      (Native.fibonacciRun (Int32.ofNat (fib m)) (Int32.ofNat (fib (m + 1))) count).length) :
    (Native.fibonacciRun (Int32.ofNat (fib m)) (Int32.ofNat (fib (m + 1))) count)[k]
      = Int32.ofNat (fib (m + k)) := by
  induction count generalizing m k with
  | zero => simp [Native.fibonacciRun] at hk
  | succ count ih =>
    simp only [Native.fibonacciRun, ofNat_fib_add] at hk ⊢
    cases k with
    | zero => rfl
    | succ k =>
      rw [List.getElem_cons_succ, ih (m + 1) k]
      congr 2
      omega

/-- The table holds the reductions of the Fibonacci numbers. -/
lemma Native.get_fibonacciTable (k : Fin 47) :
    Native.fibonacciTable.get k = Int32.ofNat (fib k) := by
  calc Native.fibonacciTable.get k
      = Int32.ofNat (fib (0 + k)) := Native.getElem_fibonacciRun 0 47 k (by simp)
    _ = Int32.ofNat (fib k) := by rw [Nat.zero_add]

/-- The Fibonacci function with a table computes what the recursion computes: on both sides of
the end of the table, and for negative words, which are not looked up. -/
lemma Native.fibonacci_eq (n : Int32) : Native.fibonacci n = Reference.fibonacci n := by
  rw [Native.fibonacci]
  split
  · next h => rw [Native.get_fibonacciTable, Reference.fibonacci_eq_ofNat h.1]
  · rw [Reference.fibonacciAscending_eq]

/-- The ascending product computes what the recursion computes. -/
lemma Native.factorial_eq (n : Int32) : Native.factorial n = Reference.factorial n := by
  rw [Native.factorial, Reference.factorialAscending_eq_ofNat, Reference.factorial_eq_ofNat]

end Conformance
