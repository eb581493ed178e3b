/-
# The period of the generator

A step of the native generator multiplies a word by `a`, adds `c`, and drops the sign bit.  The
product and the sum wrap at 32 bits, but the bits that stay are those of the product and the sum of
integers, so modulo `2 ^ 31` the step is the map `x ↦ a * x + c`.

After `k` of these maps a seed `x` has moved by `s * ((a - 1) * x + c)`, where `s` is the sum of the
first `k` powers of `a`.  The second factor is odd if `a` and `c` are, so the seed is back where it
was exactly if the modulus divides `s`.  If moreover `a` is one more than a multiple of four, the
powers of two that divide `s` are those that divide `k` (`emultiplicity_geom_sum`).  So a seed comes
back after `2 ^ 31` steps and not before, and there are no more words than that without a sign, so
on its way it has been at every one of them.

The main result is `Native.random_full_period`.
-/
import Conformance.Native
import Mathlib.Dynamics.PeriodicPts.Defs
import Mathlib.NumberTheory.Multiplicity
import Mathlib.RingTheory.Int.Basic

namespace Conformance

open Function Finset

/-! ## Affine steps on integers -/

section Affine

variable {a c : ℤ}

/-- One step of a linear congruential generator, before anything is reduced. -/
def affineStep (a c x : ℤ) : ℤ := a * x + c

/-- A seed moves by its first move, times the sum of the powers of the multiplier. -/
lemma iterate_affineStep (a c x : ℤ) (k : ℕ) :
    (affineStep a c)^[k] x = x + (∑ i ∈ range k, a ^ i) * ((a - 1) * x + c) := by
  induction k with
  | zero => simp
  | succ k ih =>
    rw [iterate_succ_apply', ih, affineStep, geom_sum_succ]
    ring

/-- The sum of the first `k` powers of the multiplier is divisible by the same powers of two as
`k`. -/
lemma emultiplicity_geom_sum (ha : 4 ∣ a - 1) (k : ℕ) :
    emultiplicity 2 (∑ i ∈ range k, a ^ i) = emultiplicity 2 (k : ℤ) := by
  rcases eq_or_ne a 1 with rfl | hne
  · simp
  · -- the sum is `(a ^ k - 1) / (a - 1)`, and the exponent of `a ^ k - 1` is known
    have hodd : ¬ 2 ∣ a := by omega
    have hfinite : emultiplicity 2 (a - 1) ≠ ⊤ := by
      rw [← finiteMultiplicity_iff_emultiplicity_ne_top, Int.finiteMultiplicity_iff]
      exact ⟨by decide, sub_ne_zero.mpr hne⟩
    have hlift := Int.two_pow_sub_pow' k ha hodd
    rw [one_pow, ← geom_sum_mul, emultiplicity_mul Int.prime_two, add_comm] at hlift
    exact ENat.add_right_injective_of_ne_top hfinite hlift

lemma odd_move (ha : 4 ∣ a - 1) (hc : Odd c) (x : ℤ) : Odd ((a - 1) * x + c) := by
  have heven : Even (a - 1) := even_iff_two_dvd.mpr (Dvd.dvd.trans (by decide) ha)
  exact (heven.mul_right x).add_odd hc

/-- A seed is back at its place modulo a power of two after the multiples of that power, and only
then. -/
lemma iterate_affineStep_modEq_self_iff (ha : 4 ∣ a - 1) (hc : Odd c) (x : ℤ) (e k : ℕ) :
    (affineStep a c)^[k] x ≡ x [ZMOD 2 ^ e] ↔ 2 ^ e ∣ k := by
  have hcoprime : IsCoprime ((2 : ℤ) ^ e) ((a - 1) * x + c) :=
    (Int.isCoprime_two_left.mpr (odd_move ha hc x)).pow_left
  calc (affineStep a c)^[k] x ≡ x [ZMOD 2 ^ e]
      ↔ (2 : ℤ) ^ e ∣ (∑ i ∈ range k, a ^ i) * ((a - 1) * x + c) := by
        rw [Int.modEq_comm, Int.modEq_iff_dvd, iterate_affineStep, add_sub_cancel_left]
    _ ↔ (2 : ℤ) ^ e ∣ ∑ i ∈ range k, a ^ i :=
        ⟨hcoprime.dvd_of_dvd_mul_right, fun h => h.mul_right _⟩
    _ ↔ (2 : ℤ) ^ e ∣ k := by
        rw [pow_dvd_iff_le_emultiplicity, emultiplicity_geom_sum ha,
          ← pow_dvd_iff_le_emultiplicity]
    _ ↔ 2 ^ e ∣ k := by exact_mod_cast Iff.rfl

end Affine

/-! ## Words without a sign -/

/-- What is left without the sign bit, also of a negative word. -/
lemma toInt_and_maxValue (n : Int32) : (n &&& Int32.maxValue).toInt = n.toInt % 2 ^ 31 := by
  have hmask : (n &&& Int32.maxValue).toBitVec.toNat = n.toBitVec.toNat % 2 ^ 31 := by
    rw [Int32.toBitVec_and, BitVec.toNat_and]
    exact Nat.and_two_pow_sub_one_eq_mod _ 31
  have hlt := n.toBitVec.isLt
  rw [← Int32.toInt_toBitVec, ← Int32.toInt_toBitVec, BitVec.toInt_eq_toNat_cond,
    BitVec.toInt_eq_toNat_cond, hmask]
  split <;> split <;> omega

/-- Wrapping at 32 bits keeps the lower 31 of them. -/
lemma bmod_modEq (x : ℤ) : x.bmod (2 ^ 32) ≡ x [ZMOD 2 ^ 31] := by
  have hmod : x.bmod (2 ^ 32) ≡ x [ZMOD (2 ^ 32 : ℕ)] := Int.bmod_emod
  exact hmod.of_dvd (by norm_num)

/-- Words that are not negative are told apart by their lower 31 bits. -/
lemma eq_of_toInt_modEq {n m : Int32} (hn : 0 ≤ n) (hm : 0 ≤ m)
    (h : n.toInt ≡ m.toInt [ZMOD 2 ^ 31]) : n = m := by
  have hn₀ : 0 ≤ n.toInt := Int32.le_iff_toInt_le.mp hn
  have hm₀ : 0 ≤ m.toInt := Int32.le_iff_toInt_le.mp hm
  rw [← Int32.toInt_inj]
  calc n.toInt = n.toInt % 2 ^ 31 := (Int.emod_eq_of_lt hn₀ n.toInt_lt).symm
    _ = m.toInt % 2 ^ 31 := h
    _ = m.toInt := Int.emod_eq_of_lt hm₀ m.toInt_lt

lemma eq_of_toNat_eq {n m : Int32} (hn : 0 ≤ n) (hm : 0 ≤ m)
    (h : n.toNatClampNeg = m.toNatClampNeg) : n = m := by
  rw [← Int32.ofNat_toNatClampNeg n hn, h, Int32.ofNat_toNatClampNeg m hm]

namespace Native

/-! ## Steps and runs of the generator -/

/-- The step of the generator on integers. -/
abbrev integerStep : ℤ → ℤ := affineStep generatorMultiplier.toInt generatorIncrement.toInt

lemma four_dvd_multiplier_sub_one : 4 ∣ generatorMultiplier.toInt - 1 := by decide

lemma odd_increment : Odd generatorIncrement.toInt := by decide

/-- One step is the step on integers, reduced once. -/
lemma toInt_random (n : Int32) : (random n).toInt = integerStep n.toInt % 2 ^ 31 := by
  have hwrap : (n * generatorMultiplier + generatorIncrement).toInt
      ≡ integerStep n.toInt [ZMOD 2 ^ 31] := by
    rw [Int32.toInt_add, Int32.toInt_mul, integerStep, affineStep, mul_comm n.toInt]
    exact (bmod_modEq _).trans ((bmod_modEq _).add_right _)
  rw [random, toInt_and_maxValue]
  exact hwrap

lemma random_nonneg (n : Int32) : 0 ≤ random n := by
  rw [Int32.le_iff_toInt_le, toInt_random]
  exact Int.emod_nonneg _ (by norm_num)

/-- The step loses nothing but the sign bit, because the multiplier is odd. -/
lemma random_eq_random_iff {n m : Int32} :
    random n = random m ↔ n.toInt ≡ m.toInt [ZMOD 2 ^ 31] := by
  have hgcd : Int.gcd (2 ^ 31) generatorMultiplier.toInt = 1 := by decide
  rw [← Int32.toInt_inj, toInt_random, toInt_random]
  constructor
  · intro h
    have hmul : generatorMultiplier.toInt * n.toInt
        ≡ generatorMultiplier.toInt * m.toInt [ZMOD 2 ^ 31] := Int.ModEq.add_right_cancel' _ h
    have hcancel := hmul.cancel_left_div_gcd (by norm_num)
    rwa [hgcd, Nat.cast_one, Int.ediv_one] at hcancel
  · intro h
    exact (h.mul_left _).add_right _

lemma iterate_random_nonneg {n : Int32} (h : 0 ≤ n) (k : ℕ) : 0 ≤ random^[k] n := by
  cases k with
  | zero => exact h
  | succ k =>
    rw [iterate_succ_apply']
    exact random_nonneg _

/-- A run is the run on integers, wherever it is reduced. -/
lemma toInt_iterate_random (n : Int32) (k : ℕ) :
    (random^[k] n).toInt ≡ integerStep^[k] n.toInt [ZMOD 2 ^ 31] := by
  induction k with
  | zero => rfl
  | succ k ih =>
    rw [iterate_succ_apply', iterate_succ_apply', toInt_random]
    exact (Int.mod_modEq _ _).trans ((ih.mul_left _).add_right _)

/-- A seed that is not negative comes back after the multiples of `2 ^ 31`, and only then. -/
lemma isPeriodicPt_random_iff {n : Int32} (h : 0 ≤ n) (k : ℕ) :
    IsPeriodicPt random k n ↔ 2 ^ 31 ∣ k := by
  rw [← iterate_affineStep_modEq_self_iff four_dvd_multiplier_sub_one odd_increment n.toInt 31 k]
  have hrun := toInt_iterate_random n k
  constructor
  · intro hback
    rw [hback.eq] at hrun
    exact hrun.symm
  · intro hback
    exact eq_of_toInt_modEq (iterate_random_nonneg h k) h (hrun.trans hback)

lemma minimalPeriod_random {n : Int32} (h : 0 ≤ n) : minimalPeriod random n = 2 ^ 31 := by
  apply Nat.dvd_antisymm
  · exact ((isPeriodicPt_random_iff h _).mpr dvd_rfl).minimalPeriod_dvd
  · exact (isPeriodicPt_random_iff h _).mp (isPeriodicPt_minimalPeriod random n)

lemma iterate_random_injOn {n : Int32} (h : 0 ≤ n) :
    Set.InjOn (fun k => random^[k] n) (Set.Iio (2 ^ 31)) := by
  have hinj := iterate_injOn_Iio_minimalPeriod (f := random) (x := n)
  rwa [minimalPeriod_random h] at hinj

/-- The words of one period are as many as there are words without a sign, so none is left out. -/
lemma exists_iterate_random_eq {n m : Int32} (hn : 0 ≤ n) (hm : 0 ≤ m) :
    ∃ k < 2 ^ 31, random^[k] n = m := by
  have hmaps : Set.MapsTo (fun k => (random^[k] n).toNatClampNeg) (range (2 ^ 31))
      (range (2 ^ 31)) := by
    intro k _
    rw [coe_range]
    exact Int32.toNatClampNeg_lt _
  have hinj : Set.InjOn (fun k => (random^[k] n).toNatClampNeg) (range (2 ^ 31)) := by
    intro j hj k hk h
    rw [coe_range] at hj hk
    have hword : random^[j] n = random^[k] n :=
      eq_of_toNat_eq (iterate_random_nonneg hn j) (iterate_random_nonneg hn k) h
    exact iterate_random_injOn hn hj hk hword
  have hmem : m.toNatClampNeg ∈ (range (2 ^ 31) : Set ℕ) := by
    rw [coe_range]
    exact Int32.toNatClampNeg_lt m
  -- an injective map of a finite set into itself reaches every member
  obtain ⟨k, hk, heq⟩ := surjOn_of_injOn_of_card_le _ hmaps hinj le_rfl hmem
  exact ⟨k, by simpa using hk, eq_of_toNat_eq (iterate_random_nonneg hn k) hm heq⟩

/-- **The generator has full period.**  From every word a step gives the lower 31 bits of the
product and the sum of integers, so two words are sent to the same word exactly if they are
congruent modulo `2 ^ 31`.  From every seed that is not negative, `2 ^ 31` steps lead back to the
seed, no two of the words before that are equal, and each word that is not negative is among them
exactly once. -/
theorem random_full_period :
    (∀ n : Int32, (random n).toInt = (1103515245 * n.toInt + 12345) % 2 ^ 31 ∧
      0 ≤ (random n).toInt ∧ (random n).toInt < 2 ^ 31) ∧
    (∀ n m : Int32, random n = random m ↔ n.toInt ≡ m.toInt [ZMOD 2 ^ 31]) ∧
    ∀ n : Int32, 0 ≤ n →
      (∀ j k : ℕ, j < 2 ^ 31 → k < 2 ^ 31 → j ≠ k → random^[j] n ≠ random^[k] n) ∧
      random^[2 ^ 31] n = n ∧
      ∀ m : Int32, 0 ≤ m → ∃! k : ℕ, k < 2 ^ 31 ∧ random^[k] n = m := by
  refine ⟨?_, fun n m => random_eq_random_iff, ?_⟩
  · intro n
    exact ⟨toInt_random n, Int32.le_iff_toInt_le.mp (random_nonneg n), (random n).toInt_lt⟩
  · intro n hn
    refine ⟨?_, ?_, ?_⟩
    · intro j k hj hk hne heq
      exact hne (iterate_random_injOn hn hj hk heq)
    · exact (isPeriodicPt_random_iff hn (2 ^ 31)).mpr dvd_rfl
    · intro m hm
      obtain ⟨k, hk, hreach⟩ := exists_iterate_random_eq hn hm
      refine ⟨k, ⟨hk, hreach⟩, ?_⟩
      rintro j ⟨hj, hreach'⟩
      exact iterate_random_injOn hn hj hk (hreach'.trans hreach.symm)

/-- The largest word and minus one, where the product wraps, have the same lower bits. -/
theorem random_full_period_maxValue :
    (random (-1)).toInt = 1043980748 ∧ random Int32.maxValue = random (-1) ∧
    (0 : Int32) ≤ Int32.maxValue ∧ random^[2 ^ 31] Int32.maxValue = Int32.maxValue ∧
    (∃! k : ℕ, k < 2 ^ 31 ∧ random^[k] Int32.maxValue = 0) := by
  obtain ⟨hvalue, hsame, hperiod⟩ := random_full_period
  have hseed : (0 : Int32) ≤ Int32.maxValue := by decide
  obtain ⟨-, hback, hreach⟩ := hperiod Int32.maxValue hseed
  refine ⟨?_, (hsame _ _).mpr (by decide), hseed, hback, hreach 0 (by decide)⟩
  rw [(hvalue (-1)).1]
  decide

end Native

end Conformance
