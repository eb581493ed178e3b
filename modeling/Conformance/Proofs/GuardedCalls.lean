/-
# Calls with guards

Arithmetic on words always has an answer.  Most of it is meant to be reduced to 32 bits.  In some
places a result that does not fit would be a mistake: where the recursions go one or two words down,
where a loop counts up, where the table of Fibonacci words is filled.  A remainder has no answer if
the divisor is zero, and a table or an argument list has no entry beyond its end.

Here the functions are written once more with a guard in each of these places.  A guard that fails
stops the computation with a panic (`Panic`).  A guarded sum or difference comes with the fact that
it is the sum or difference of the integers, and the recursions and loops have nothing else to rely
on for their end: `wellFounded_factorialAsks` and `wellFounded_fibonacciAsks` say that no word leads
to an endless descent.

The guards depend on one another.  The arguments of a function are read by their positions, which
the arity check has made safe; an index of the table is one because of two comparisons with the word
before; a word that goes down stays in range because of the case that ends the recursion.

The main result is `Guarded.calls_never_panic`: with all guards in place, every call answers what
the functions without guards answer.
-/
import Conformance.Proofs.ExactRange

namespace Conformance

open Nat (fib)
open scoped Nat

/-- What stops a computation. -/
inductive Panic where
  /-- The result of an operation does not fit in a word. -/
  | overflow
  /-- A remainder was taken with the divisor zero. -/
  | zeroDivisor
  /-- An entry was read or written at `index`, beyond the end of a list of `count` entries. -/
  | outOfBounds (count index : ℕ)
  deriving DecidableEq

/-- Computations that may panic. -/
abbrev Guarded : Type → Type := Except Panic

namespace Guarded

/-! ## Guarded operations -/

/-- Whether an integer is the value of a word. -/
def Fits (k : ℤ) : Prop := -2 ^ 31 ≤ k ∧ k < 2 ^ 31

instance (k : ℤ) : Decidable (Fits k) := inferInstanceAs (Decidable (_ ∧ _))

lemma bmod_of_fits {k : ℤ} (h : Fits k) : k.bmod (2 ^ 32) = k := by
  obtain ⟨hle, hlt⟩ := h
  exact Int.bmod_eq_of_le (by omega) (by omega)

/-- The sum of two words, if it fits. -/
def add (a b : Int32) : Guarded { c : Int32 // c.toInt = a.toInt + b.toInt } :=
  if h : Fits (a.toInt + b.toInt) then
    return ⟨a + b, (Int32.toInt_add a b).trans (bmod_of_fits h)⟩
  else throw .overflow

/-- The difference of two words, if it fits. -/
def sub (a b : Int32) : Guarded { c : Int32 // c.toInt = a.toInt - b.toInt } :=
  if h : Fits (a.toInt - b.toInt) then
    return ⟨a - b, (Int32.toInt_sub a b).trans (bmod_of_fits h)⟩
  else throw .overflow

/-- The remainder of two words.  The smallest word has no quotient by minus one that fits. -/
def rem (a b : Int32) : Guarded Int32 :=
  if b = 0 then throw .zeroDivisor
  else if a = Int32.minValue ∧ b = -1 then throw .overflow
  else return a % b

/-- The entry of a list at an index. -/
def entry (list : List Int32) (index : ℕ) : Guarded Int32 :=
  match list[index]? with
  | some word => return word
  | none => throw (.outOfBounds list.length index)

/-- The list with another entry at an index. -/
def store (list : List Int32) (index : ℕ) (word : Int32) : Guarded (List Int32) :=
  if index < list.length then return list.set index word
  else throw (.outOfBounds list.length index)

lemma exists_add_eq {a b : Int32} (h : Fits (a.toInt + b.toInt)) :
    ∃ hc, add a b = pure ⟨a + b, hc⟩ :=
  ⟨_, dif_pos h⟩

/-- A word below another one has a next word. -/
lemma exists_add_one_eq {k n : Int32} (h : k.toInt < n.toInt) :
    ∃ hc, add k 1 = pure ⟨k + 1, hc⟩ := by
  have hone : (1 : Int32).toInt = 1 := rfl
  have hle := k.le_toInt
  have hlt := n.toInt_lt
  refine exists_add_eq ?_
  rw [hone]
  exact ⟨by omega, by omega⟩

/-- A word that is not negative can be taken off a word that is not smaller. -/
lemma exists_sub_eq {a b : Int32} (hb : 0 ≤ b.toInt) (hle : b.toInt ≤ a.toInt) :
    ∃ hc, sub a b = pure ⟨a - b, hc⟩ := by
  have hlt := a.toInt_lt
  have hfits : Fits (a.toInt - b.toInt) := ⟨by omega, by omega⟩
  exact ⟨_, dif_pos hfits⟩

lemma rem_two (n : Int32) : rem n 2 = pure (n % 2) := by
  have hzero : ¬ (2 : Int32) = 0 := by decide
  have hminus : ¬ (n = Int32.minValue ∧ (2 : Int32) = -1) := fun h => absurd h.2 (by decide)
  rw [rem, if_neg hzero, if_neg hminus]

lemma entry_of_lt {list : List Int32} {index : ℕ} (h : index < list.length) :
    entry list index = pure list[index] := by
  rw [entry, List.getElem?_eq_getElem h]

/-! ## The recursions -/

/-- The factorial of `n` asks for the factorial of `m`. -/
def FactorialAsks (m n : Int32) : Prop := ¬ n ≤ 0 ∧ m.toInt = n.toInt - 1

/-- The Fibonacci word at `n` asks for the one at `m`. -/
def FibonacciAsks (m n : Int32) : Prop :=
  ¬ n < 2 ∧ (m.toInt = n.toInt - 1 ∨ m.toInt = n.toInt - 2)

/-- Words that go down from positive words only come to an end. -/
lemma wellFounded_of_descends {asks : Int32 → Int32 → Prop}
    (h : ∀ m n, asks m n → 0 < n.toInt ∧ m.toInt < n.toInt) : WellFounded asks := by
  refine Subrelation.wf (r := fun m n => m.toNatClampNeg < n.toNatClampNeg) ?_
    (measure Int32.toNatClampNeg).wf
  intro m n hasks
  obtain ⟨hpos, hlt⟩ := h m n hasks
  show m.toInt.toNat < n.toInt.toNat
  omega

lemma wellFounded_factorialAsks : WellFounded FactorialAsks := by
  apply wellFounded_of_descends
  rintro m n ⟨hpos, hm⟩
  rw [Int32.le_iff_toInt_le] at hpos
  have hzero : (0 : Int32).toInt = 0 := rfl
  omega

lemma wellFounded_fibonacciAsks : WellFounded FibonacciAsks := by
  apply wellFounded_of_descends
  rintro m n ⟨hge, hm⟩
  rw [Int32.lt_iff_toInt_lt] at hge
  have htwo : (2 : Int32).toInt = 2 := rfl
  omega

/-- The factorial by recursion, with its descent guarded. -/
def factorial (n : Int32) : Guarded Int32 :=
  if _ : n ≤ 0 then return 1
  else do
    let ⟨before, _⟩ ← sub n 1
    return n * (← factorial before)
termination_by wellFounded_factorialAsks.wrap n
decreasing_by exact ⟨by assumption, by assumption⟩

/-- The Fibonacci function by recursion, with its descents guarded. -/
def fibonacci (n : Int32) : Guarded Int32 :=
  if _ : n < 2 then return n
  else do
    let ⟨before, _⟩ ← sub n 1
    let a ← fibonacci before
    let ⟨twoBefore, _⟩ ← sub n 2
    return a + (← fibonacci twoBefore)
termination_by wellFounded_fibonacciAsks.wrap n
decreasing_by
  · exact ⟨by assumption, .inl (by assumption)⟩
  · exact ⟨by assumption, .inr (by assumption)⟩

lemma factorial_eq (n : Int32) : factorial n = pure (Reference.factorial n) := by
  fun_induction Reference.factorial n with
  | case1 n h ih =>
    have hpos : 0 < n.toInt := Int32.lt_iff_toInt_lt.mp h
    have hone : (1 : Int32).toInt = 1 := rfl
    obtain ⟨hbefore, hsub⟩ := exists_sub_eq (a := n) (b := 1) (by omega) (by omega)
    rw [factorial, dif_neg (Int32.not_le.mpr h), hsub]
    simp only [pure_bind, ih]
  | case2 n h => rw [factorial, dif_pos (Int32.not_lt.mp h)]

lemma fibonacci_eq (n : Int32) : fibonacci n = pure (Reference.fibonacci n) := by
  have hone : (1 : Int32).toInt = 1 := rfl
  have htwo : (2 : Int32).toInt = 2 := rfl
  fun_induction Reference.fibonacci n with
  | case1 n h ih₁ ih₂ =>
    have hlt : 1 < n.toInt := Int32.lt_iff_toInt_lt.mp h
    have hge : ¬ n < 2 := by
      rw [Int32.lt_iff_toInt_lt]
      omega
    obtain ⟨hbefore, hsub₁⟩ := exists_sub_eq (a := n) (b := 1) (by omega) (by omega)
    obtain ⟨htwoBefore, hsub₂⟩ := exists_sub_eq (a := n) (b := 2) (by omega) (by omega)
    rw [fibonacci, dif_neg hge, hsub₁, hsub₂]
    simp only [pure_bind, ih₁, ih₂]
  | case2 n h =>
    have hlt : n < 2 := by
      rw [Int32.lt_iff_toInt_lt] at h ⊢
      omega
    rw [fibonacci, dif_pos hlt]

/-! ## The loops -/

/-- A count that goes on is nearer to its end. -/
lemma toNat_sub_next_lt {k n next : Int32} (h : k < n) (hnext : next.toInt = k.toInt + 1) :
    (n.toInt - next.toInt).toNat < (n.toInt - k.toInt).toNat := by
  rw [Int32.lt_iff_toInt_lt] at h
  omega

/-- Multiplies `acc` by the words from `k` to `n`, with the count guarded.  The last word ends the
loop before the count goes on. -/
def productThrough (acc k n : Int32) : Guarded Int32 :=
  if _ : k < n then do
    let ⟨next, _⟩ ← add k 1
    productThrough (acc * k) next n
  else if k = n then return acc * k
  else return acc
termination_by (n.toInt - k.toInt).toNat
decreasing_by exact toNat_sub_next_lt (by assumption) (by assumption)

/-- The factorial as an ascending product. -/
def factorialAscending (n : Int32) : Guarded Int32 := productThrough 1 1 n

/-- Moves a pair of neighbouring Fibonacci words on, once for each word from `k` to the one before
`n`, with the count guarded. -/
def pairThrough (a b k n : Int32) : Guarded Int32 :=
  if _ : k < n then do
    let ⟨next, _⟩ ← add k 1
    pairThrough b (a + b) next n
  else return b
termination_by (n.toInt - k.toInt).toNat
decreasing_by exact toNat_sub_next_lt (by assumption) (by assumption)

/-- The Fibonacci function as a loop. -/
def fibonacciAscending (n : Int32) : Guarded Int32 :=
  if n < 2 then return n else pairThrough 0 1 1 n

/-- The product, started after `m` factors and with `count` words to come after the next one. -/
lemma productThrough_eq (m count : ℕ) {n : Int32} (hn : n.toInt = m + 1 + count) :
    productThrough (Int32.ofNat m !) (Int32.ofNat (m + 1)) n
      = pure (Int32.ofNat (m + 1 + count)!) := by
  have hbound := n.toInt_lt
  induction count generalizing m with
  | zero =>
    have hk : (Int32.ofNat (m + 1)).toInt = m + 1 := Int32.toInt_ofNat_of_lt (by omega)
    have hlast : Int32.ofNat (m + 1) = n := by
      rw [← Int32.toInt_inj]
      omega
    have hnot : ¬ Int32.ofNat (m + 1) < n := by
      rw [hlast]
      exact Int32.lt_irrefl
    rw [productThrough, dif_neg hnot, if_pos hlast, ofNat_factorial_mul, Nat.add_zero]
  | succ count ih =>
    have hk : (Int32.ofNat (m + 1)).toInt = m + 1 := Int32.toInt_ofNat_of_lt (by omega)
    have hlt : Int32.ofNat (m + 1) < n := by
      rw [Int32.lt_iff_toInt_lt]
      omega
    have hnext : Int32.ofNat (m + 1) + 1 = Int32.ofNat (m + 1 + 1) :=
      (Int32.ofNat_add (m + 1) 1).symm
    obtain ⟨hsum, hadd⟩ := exists_add_one_eq (Int32.lt_iff_toInt_lt.mp hlt)
    have hrest := ih (m + 1) (by push_cast; omega)
    have hcount : m + 1 + 1 + count = m + 1 + (count + 1) := by omega
    rw [hcount] at hrest
    rw [productThrough, dif_pos hlt, hadd, pure_bind, ofNat_factorial_mul]
    simp only [hnext, hrest]

lemma factorialAscending_eq (n : Int32) :
    factorialAscending n = pure (Reference.factorialAscending n) := by
  rw [Reference.factorialAscending_eq_ofNat, factorialAscending]
  have hone : (1 : Int32).toInt = 1 := rfl
  have hclamp : n.toNatClampNeg = n.toInt.toNat := rfl
  by_cases hpos : 0 < n.toInt
  · have hloop := productThrough_eq 0 (n.toNatClampNeg - 1) (n := n) (by push_cast; omega)
    have hcount : 0 + 1 + (n.toNatClampNeg - 1) = n.toNatClampNeg := by omega
    rw [hcount] at hloop
    exact hloop
  · -- there is no word from one to `n`, and the product is empty
    have hzero : n.toNatClampNeg = 0 := by omega
    have hnot : ¬ 1 < n := by
      rw [Int32.lt_iff_toInt_lt]
      omega
    have hne : ¬ 1 = n := by
      rintro rfl
      omega
    rw [productThrough, dif_neg hnot, if_neg hne, hzero]
    rfl

lemma pairThrough_eq (count : ℕ) {a b k n : Int32} (hn : n.toInt = k.toInt + count) :
    pairThrough a b k n = pure (Reference.fibonacciFrom a b count) := by
  induction count generalizing a b k with
  | zero =>
    have hnot : ¬ k < n := by
      rw [Int32.lt_iff_toInt_lt]
      omega
    rw [pairThrough, dif_neg hnot, Reference.fibonacciFrom]
  | succ count ih =>
    have hlt : k.toInt < n.toInt := by omega
    obtain ⟨hnext, hadd⟩ := exists_add_one_eq hlt
    rw [pairThrough, dif_pos (Int32.lt_iff_toInt_lt.mpr hlt), hadd, pure_bind,
      Reference.fibonacciFrom]
    have hone : (1 : Int32).toInt = 1 := rfl
    exact ih (by omega)

lemma fibonacciAscending_eq (n : Int32) :
    fibonacciAscending n = pure (Reference.fibonacciAscending n) := by
  rw [fibonacciAscending, Reference.fibonacciAscending]
  split
  · rfl
  · next h =>
    rw [Int32.lt_iff_toInt_lt] at h
    have hone : (1 : Int32).toInt = 1 := rfl
    have htwo : (2 : Int32).toInt = 2 := rfl
    have hclamp : n.toNatClampNeg = n.toInt.toNat := rfl
    exact pairThrough_eq _ (by omega)

/-! ## The table -/

/-- Fills `count` entries of a table, each with the sum of the two before it.  The first two that
are added stand at `index` and behind it. -/
def fill (table : List Int32) (index : ℕ) : ℕ → Guarded (List Int32)
  | 0 => return table
  | count + 1 => do
    let a ← entry table (index + 1)
    let b ← entry table index
    let ⟨sum, _⟩ ← add a b
    fill (← store table (index + 2) sum) (index + 1) count

/-- The table of the Fibonacci words, from its first two entries. -/
def fibonacciTable : Guarded (List Int32) :=
  fill (0 :: 1 :: List.replicate 45 0) 0 45

/-- The first `count` Fibonacci words. -/
def fibonacciWords (count : ℕ) : List Int32 := (List.range count).map fun k => Int32.ofNat (fib k)

@[simp] lemma length_fibonacciWords (count : ℕ) : (fibonacciWords count).length = count := by
  simp [fibonacciWords]

lemma fibonacciWords_succ (count : ℕ) :
    fibonacciWords (count + 1) = fibonacciWords count ++ [Int32.ofNat (fib count)] := by
  simp [fibonacciWords, List.range_succ]

lemma toList_fibonacciTable : Native.fibonacciTable.toList = fibonacciWords 47 := by
  apply List.ext_getElem
  · simp
  · intro k hk hk'
    have hindex : k < 47 := by simpa using hk'
    simp only [fibonacciWords, List.getElem_map, List.getElem_range]
    exact Native.get_fibonacciTable ⟨k, hindex⟩

lemma entry_fibonacciWords {k count : ℕ} (h : k < count) (rest : List Int32) :
    entry (fibonacciWords count ++ rest) k = pure (Int32.ofNat (fib k)) := by
  have hlt : k < (fibonacciWords count ++ rest).length := by
    rw [List.length_append, length_fibonacciWords]
    omega
  rw [entry_of_lt hlt]
  simp [fibonacciWords, List.getElem_append_left, h]

/-- The sum of two neighbouring Fibonacci words fits as long as the next Fibonacci number does. -/
lemma exists_add_fib_eq {m : ℕ} (h : m + 2 ≤ 46) :
    ∃ hc, add (Int32.ofNat (fib (m + 1))) (Int32.ofNat (fib m))
      = pure ⟨Int32.ofNat (fib (m + 2)), hc⟩ := by
  have hsum : fib (m + 2) = fib m + fib (m + 1) := Nat.fib_add_two
  have hlt : fib (m + 2) < 2 ^ 31 := (fib_lt_iff (m + 2)).mpr h
  have ha : (Int32.ofNat (fib (m + 1))).toInt = fib (m + 1) := Int32.toInt_ofNat_of_lt (by omega)
  have hb : (Int32.ofNat (fib m)).toInt = fib m := Int32.toInt_ofNat_of_lt (by omega)
  have hfits : Fits ((Int32.ofNat (fib (m + 1))).toInt + (Int32.ofNat (fib m)).toInt) := by
    rw [ha, hb]
    exact ⟨by omega, by omega⟩
  have hword : Int32.ofNat (fib (m + 1)) + Int32.ofNat (fib m) = Int32.ofNat (fib (m + 2)) := by
    rw [Int32.add_comm, ofNat_fib_add]
  rw [← hword]
  exact exists_add_eq hfits

/-- The table holds Fibonacci words up to the entry that is filled, and each step adds the next
one. -/
lemma fill_eq (m count : ℕ) (h : m + 2 + count ≤ 47) :
    fill (fibonacciWords (m + 2) ++ List.replicate count 0) m count
      = pure (fibonacciWords (m + 2 + count)) := by
  induction count generalizing m with
  | zero => rw [fill, List.replicate_zero, List.append_nil, Nat.add_zero]
  | succ count ih =>
    have hfirst : entry (fibonacciWords (m + 2) ++ List.replicate (count + 1) 0) (m + 1)
        = pure (Int32.ofNat (fib (m + 1))) := entry_fibonacciWords (by omega) _
    have hsecond : entry (fibonacciWords (m + 2) ++ List.replicate (count + 1) 0) m
        = pure (Int32.ofNat (fib m)) := entry_fibonacciWords (by omega) _
    have hstore : store (fibonacciWords (m + 2) ++ List.replicate (count + 1) 0) (m + 2)
        (Int32.ofNat (fib (m + 2)))
          = pure (fibonacciWords (m + 1 + 2) ++ List.replicate count 0) := by
      have hlt : m + 2 < (fibonacciWords (m + 2)
          ++ List.replicate (count + 1) (0 : Int32)).length := by simp
      rw [store, if_pos hlt, fibonacciWords_succ (m + 2), List.replicate_succ]
      simp
    obtain ⟨hsum, hadd⟩ := exists_add_fib_eq (m := m) (by omega)
    rw [fill, hfirst, hsecond]
    simp only [pure_bind, hadd, hstore]
    rw [ih (m + 1) (by omega)]
    congr 2
    omega

/-- The table with guards is the table. -/
lemma fibonacciTable_eq : fibonacciTable = pure Native.fibonacciTable.toList := by
  rw [toList_fibonacciTable]
  exact fill_eq 0 45 (by omega)

/-- The Fibonacci function, looked up in the table or from the loop. -/
def lookedUpFibonacci (n : Int32) : Guarded Int32 := do
  if 0 ≤ n ∧ n ≤ maxFibonacciIndex then
    entry (← fibonacciTable) n.toNatClampNeg
  else fibonacciAscending n

lemma lookedUpFibonacci_eq (n : Int32) : lookedUpFibonacci n = pure (Native.fibonacci n) := by
  rw [lookedUpFibonacci, Native.fibonacci]
  split
  · next h =>
    have hlt : n.toNatClampNeg < Native.fibonacciTable.toList.length := by
      rw [Vector.length_toList]
      exact Native.toNat_lt_table h
    rw [fibonacciTable_eq, pure_bind, entry_of_lt hlt]
    rfl
  · exact fibonacciAscending_eq n

/-! ## Calls -/

/-- Whether a word is even, from its guarded remainder. -/
def even (n : Int32) : Guarded Int32 := return Native.truth ((← rem n 2) == 0)

/-- Whether a word is odd, from its guarded remainder. -/
def odd (n : Int32) : Guarded Int32 := return Native.truth ((← rem n 2) != 0)

/-- The native function of an operation, applied to the arguments at their positions. -/
def native : Operation → List Int32 → Guarded Int32
  | .greater, args => return Native.greater (← entry args 0) (← entry args 1)
  | .lesser, args => return Native.lesser (← entry args 0) (← entry args 1)
  | .equal, args => return Native.equal (← entry args 0) (← entry args 1)
  | .thresholdBranch, args => return Native.thresholdBranch (← entry args 0) (← entry args 1)
  | .fibonacci, args => do lookedUpFibonacci (← entry args 0)
  | .factorial, args => do factorialAscending (← entry args 0)
  | .even, args => do even (← entry args 0)
  | .odd, args => do odd (← entry args 0)
  | .random, args => return Native.random (← entry args 0)
  | .sum, args => return Native.sum (← entry args 0) (← entry args 1) (← entry args 2)
  | .selfTest, _ => return Native.selfTest

/-- The reference function of an operation, if it has one, applied to the arguments at their
positions. -/
def reference? : Operation → Option (List Int32 → Guarded Int32)
  | .greater => some fun args => return Reference.greater (← entry args 0) (← entry args 1)
  | .lesser => some fun args => return Reference.lesser (← entry args 0) (← entry args 1)
  | .equal => some fun args => return Reference.equal (← entry args 0) (← entry args 1)
  | .thresholdBranch =>
    some fun args => return Reference.thresholdBranch (← entry args 0) (← entry args 1)
  | .fibonacci => some fun args => do fibonacci (← entry args 0)
  | .factorial => some fun args => do factorial (← entry args 0)
  | .even | .odd | .random | .sum | .selfTest => none

/-- A call of the native function, after the arity check. -/
def invokeNative (op : Operation) (args : List Int32) : Guarded (Except Failure Int32) :=
  match op.check args with
  | .error failure => return .error failure
  | .ok _ => return .ok (← native op args)

/-- A call of the reference function, after the arity check. -/
def invokeReference (op : Operation) (args : List Int32) :
    Guarded (Except Failure (Option Int32)) :=
  match op.check args, reference? op with
  | .error failure, _ => return .error failure
  | .ok _, none => return .ok none
  | .ok _, some f => return .ok (some (← f args))

/-- With as many arguments as the operation takes, the native function answers. -/
lemma native_of_length {op : Operation} {args : List Int32} (h : args.length = op.arity) :
    native op args = pure ((Native.functions op).apply args h) := by
  cases op with
  | greater | lesser | equal | thresholdBranch =>
    obtain ⟨a, b, rfl⟩ := List.length_eq_two.mp h
    rfl
  | fibonacci =>
    obtain ⟨n, rfl⟩ := List.length_eq_one_iff.mp h
    exact lookedUpFibonacci_eq n
  | factorial =>
    obtain ⟨n, rfl⟩ := List.length_eq_one_iff.mp h
    exact factorialAscending_eq n
  | even | odd =>
    obtain ⟨n, rfl⟩ := List.length_eq_one_iff.mp h
    -- the remainder has an answer, because the divisor is two
    change rem n 2 >>= _ = _
    rw [rem_two, pure_bind]
    rfl
  | random =>
    obtain ⟨n, rfl⟩ := List.length_eq_one_iff.mp h
    rfl
  | sum =>
    obtain ⟨a, b, c, rfl⟩ := List.length_eq_three.mp h
    rfl
  | selfTest =>
    obtain rfl := List.eq_nil_of_length_eq_zero h
    rfl

/-- With as many arguments as the operation takes, the reference function answers. -/
lemma reference?_of_length {op : Operation} {args : List Int32} (h : args.length = op.arity) :
    (reference? op).map (· args)
      = op.reference?.map fun f => pure (f.apply args h) := by
  cases op with
  | greater | lesser | equal | thresholdBranch =>
    obtain ⟨a, b, rfl⟩ := List.length_eq_two.mp h
    rfl
  | fibonacci =>
    obtain ⟨n, rfl⟩ := List.length_eq_one_iff.mp h
    exact congrArg some (fibonacci_eq n)
  | factorial =>
    obtain ⟨n, rfl⟩ := List.length_eq_one_iff.mp h
    exact congrArg some (factorial_eq n)
  | even | odd | random | sum | selfTest => rfl

lemma invokeNative_of_length {op : Operation} {args : List Int32} (h : args.length = op.arity) :
    invokeNative op args = pure (.ok ((Native.functions op).apply args h)) := by
  rw [invokeNative, Operation.check_of_length h]
  simp only [native_of_length h, pure_bind]

lemma invokeNative_of_length_ne {op : Operation} {args : List Int32}
    (h : args.length ≠ op.arity) :
    invokeNative op args = pure (.error (op.arityFailure args)) := by
  rw [invokeNative, Operation.check_of_length_ne h]

lemma invokeReference_of_length {op : Operation} {args : List Int32} (h : args.length = op.arity) :
    invokeReference op args = pure (op.invokeReference args) := by
  rw [invokeReference, Operation.invokeReference_of_length h, Operation.check_of_length h]
  have hanswer := reference?_of_length h
  -- an operation has a guarded reference exactly if it has a reference
  rcases hguarded : reference? op with _ | f <;> rcases hplain : op.reference? with _ | f' <;>
    rw [hguarded, hplain] at hanswer
  · rfl
  · cases hanswer
  · cases hanswer
  · have happly : f args = pure (f'.apply args h) := Option.some.inj hanswer
    simp only [happly, pure_bind, Option.map_some]

lemma invokeReference_of_length_ne {op : Operation} {args : List Int32}
    (h : args.length ≠ op.arity) :
    invokeReference op args = pure (.error (op.arityFailure args)) := by
  rw [invokeReference, Operation.check_of_length_ne h]

/-- **No call panics.**  For every operation and every argument list, the call of the native
function and the call of the reference function give their answers with all guards in place: no
difference, no count and no sum in the table leaves the range of a word, no remainder is without an
answer, and nothing is read or written beyond the end of the table or of the argument list.  The
answers are those of the calls without guards: a value if the list has as many words as the
operation takes, and the arity failure otherwise.  The two recursions are well-founded on all
words. -/
theorem calls_never_panic (op : Operation) (args : List Int32) :
    invokeNative op args
      = .ok ((Backend.ofFunctions "native" Native.functions).invoke op args ()).1 ∧
    invokeReference op args = .ok (op.invokeReference args) ∧
    ((args.length = op.arity ∧
        (∃ value, invokeNative op args = .ok (.ok value)) ∧
        ∃ value?, invokeReference op args = .ok (.ok value?)) ∨
      (args.length ≠ op.arity ∧
        invokeNative op args = .ok (.error (.arity op.symbol op.arity args.length)) ∧
        invokeReference op args = .ok (.error (.arity op.symbol op.arity args.length)))) ∧
    WellFounded FactorialAsks ∧ WellFounded FibonacciAsks := by
  by_cases hlen : args.length = op.arity
  · have hnative := invokeNative_of_length hlen
    have hreference := invokeReference_of_length hlen
    have hvalue := hreference
    rw [Operation.invokeReference_of_length hlen] at hvalue
    refine ⟨?_, hreference, .inl ⟨hlen, ⟨_, hnative⟩, _, hvalue⟩, wellFounded_factorialAsks,
      wellFounded_fibonacciAsks⟩
    rw [Backend.invoke_ofFunctions_of_length hlen]
    exact hnative
  · have hnative := invokeNative_of_length_ne hlen
    have hreference := invokeReference_of_length_ne hlen
    refine ⟨?_, ?_, .inr ⟨hlen, hnative, hreference⟩, wellFounded_factorialAsks,
      wellFounded_fibonacciAsks⟩
    · rw [Backend.invoke_of_length_ne _ hlen]
      exact hnative
    · rw [Operation.invokeReference_of_length_ne hlen]
      exact hreference

/-- Without the arity check an argument can be missing, and beyond the words from which they descend
the recursions would leave the range. -/
example :
    native .greater [7] = throw (.outOfBounds 1 1) ∧
      sub Int32.minValue 1 = throw .overflow ∧ add Int32.maxValue 1 = throw .overflow :=
  ⟨rfl, rfl, rfl⟩

end Guarded

end Conformance
