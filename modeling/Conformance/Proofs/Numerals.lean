/-
# Reading numbers back

A word is written in decimal: digits, after a minus sign if it is negative.  `Text.readWord?` reads
a word from the front of a text, and `Text.readWord?_decimal_append` says that it reads back what
was written, provided that the text does not go on with a digit.  So a numeral determines its word,
and it also determines where it ends.

In a line with columns the numbers stand at the right end, each behind a tab.  The label before them
may be any text, tabs included, so columns are read from the right: `Text.columns_inj` says that
they can be read in one way only.
-/
import Conformance.Text.Decimal
import Mathlib.Data.List.Basic
import Mathlib.Tactic.Common

namespace Conformance.Text

/-! ## Numerals -/

/-- The digits of a word, after its sign. -/
lemma toList_decimal (word : Int32) :
    (decimal word).toList
      = (if word < 0 then ['-'] else []) ++ Nat.toDigits 10 word.toInt.natAbs := by
  unfold decimal
  split
  · have hsign : "-".toList = ['-'] := rfl
    rw [String.toList_append, hsign, Nat.repr_eq_ofList_toDigits, String.toList_ofList]
  · rw [Nat.repr_eq_ofList_toDigits, String.toList_ofList, List.nil_append]

/-- Nothing but digits and a minus sign stands in a numeral. -/
lemma mem_decimal {word : Int32} {c : Char} (h : c ∈ (decimal word).toList) :
    c = '-' ∨ c.isDigit = true := by
  rw [toList_decimal, List.mem_append] at h
  rcases h with h | h
  · left
    split at h <;> simp_all
  · exact .inr (Nat.isDigit_of_mem_toDigits (by decide) (by decide) h)

lemma decimal_ne_nil (word : Int32) : (decimal word).toList ≠ [] := by
  rw [toList_decimal]
  exact List.append_ne_nil_of_right_ne_nil _ Nat.toDigits_ne_nil

/-- A character that is neither a digit nor a minus sign does not stand in a numeral. -/
lemma notMem_decimal {c : Char} (hminus : c ≠ '-') (hdigit : c.isDigit = false) (word : Int32) :
    c ∉ (decimal word).toList := by
  intro hc
  rcases mem_decimal hc with rfl | h
  · exact hminus rfl
  · rw [hdigit] at h
    cases h

/-- Reads all the digits at the front of a text; there must be at least one. -/
def readNatural? (text : List Char) : Option (ℕ × List Char) :=
  (readDigits? (text.takeWhile Char.isDigit)).map fun n => (n, text.dropWhile Char.isDigit)

/-- Reads a word in decimal from the front of a text: an optional minus sign, and all the digits
after it. -/
def readWord? : List Char → Option (Int32 × List Char)
  | [] => none
  | c :: rest =>
    if c = '-' then (readNatural? rest).map fun (n, rest) => (Int32.ofInt (-n), rest)
    else (readNatural? (c :: rest)).map fun (n, rest) => (Int32.ofInt n, rest)

/-- The text does not go on with a digit. -/
def NoDigitNext (text : List Char) : Prop := ∀ c ∈ text.head?, c.isDigit = false

lemma noDigitNext_cons {c : Char} {rest : List Char} (h : c.isDigit = false) :
    NoDigitNext (c :: rest) := by
  rintro _ ⟨⟩
  exact h

lemma noDigitNext_nil : NoDigitNext [] := by
  rintro _ ⟨⟩

lemma readNatural?_toDigits_append (n : ℕ) {rest : List Char} (h : NoDigitNext rest) :
    readNatural? (Nat.toDigits 10 n ++ rest) = some (n, rest) := by
  have hdigits : ∀ c ∈ Nat.toDigits 10 n, c.isDigit = true :=
    fun c hc => Nat.isDigit_of_mem_toDigits (by decide) (by decide) hc
  have htake : rest.takeWhile Char.isDigit = [] := by
    cases rest with
    | nil => rfl
    | cons c rest => rw [List.takeWhile_cons_of_neg (by simp [h c rfl])]
  have hdrop : rest.dropWhile Char.isDigit = rest := by
    cases rest with
    | nil => rfl
    | cons c rest => rw [List.dropWhile_cons_of_neg (by simp [h c rfl])]
  have hread : readDigits? (Nat.toDigits 10 n) = some n := by
    rw [readDigits?, if_pos ⟨Nat.toDigits_ne_nil, List.all_eq_true.mpr hdigits⟩,
      Nat.ofDigitChars_ten_toDigits]
  rw [readNatural?, List.takeWhile_append_of_pos hdigits, List.dropWhile_append_of_pos hdigits,
    htake, hdrop, List.append_nil, hread, Option.map_some]

/-- A word that was written is read back, up to where it ends. -/
lemma readWord?_decimal_append (word : Int32) {rest : List Char} (h : NoDigitNext rest) :
    readWord? ((decimal word).toList ++ rest) = some (word, rest) := by
  rw [toList_decimal]
  by_cases hneg : word < 0
  · have hint : -(word.toInt.natAbs : Int) = word.toInt := by
      have : word.toInt < 0 := Int32.lt_iff_toInt_lt.mp hneg
      omega
    rw [if_pos hneg, List.cons_append, List.nil_append, List.cons_append, readWord?, if_pos rfl,
      readNatural?_toDigits_append _ h]
    simp only [Option.map_some, hint, Int32.ofInt_toInt]
  · have hint : (word.toInt.natAbs : Int) = word.toInt := by
      have : ¬ word.toInt < 0 := fun hlt => hneg (Int32.lt_iff_toInt_lt.mpr hlt)
      omega
    rw [if_neg hneg, List.nil_append]
    cases hd : Nat.toDigits 10 word.toInt.natAbs with
    | nil => exact absurd hd Nat.toDigits_ne_nil
    | cons c digits =>
      have hc : c ≠ '-' := by
        rintro rfl
        have hdigit : '-'.isDigit = true :=
          Nat.isDigit_of_mem_toDigits (b := 10) (n := word.toInt.natAbs) (by decide) (by decide)
            (by rw [hd]; exact List.mem_cons_self)
        exact absurd hdigit (by decide)
      rw [List.cons_append, readWord?, if_neg hc, ← List.cons_append, ← hd,
        readNatural?_toDigits_append _ h]
      simp only [Option.map_some, hint, Int32.ofInt_toInt]

/-- A numeral determines its word, and where it ends. -/
lemma decimal_append_inj {m n : Int32} {rest rest' : List Char} (h : NoDigitNext rest)
    (h' : NoDigitNext rest')
    (heq : (decimal m).toList ++ rest = (decimal n).toList ++ rest') : m = n ∧ rest = rest' := by
  have hread := readWord?_decimal_append m h
  rw [heq, readWord?_decimal_append n h', Option.some.injEq, Prod.mk.injEq] at hread
  exact ⟨hread.1.symm, hread.2.symm⟩

lemma decimal_injective : Function.Injective decimal := by
  intro m n h
  have hchars : (decimal m).toList ++ [] = (decimal n).toList ++ [] := by rw [h]
  exact (decimal_append_inj noDigitNext_nil noDigitNext_nil hchars).1

/-! ## Columns -/

/-- A title is taken off the front of a text that begins with it. -/
lemma dropPrefix?_append (title rest : List Char) :
    (title ++ rest).dropPrefix? title = some rest :=
  List.dropPrefix?_append_of_beq rest (beq_self_eq_true title)

/-- Behind the first occurrence of a character in a text that has only one there is nothing to
add. -/
lemma cons_eq_append_cons {c : Char} {more as bs : List Char} (ha : c ∉ as)
    (h : c :: as = more ++ c :: bs) : more = [] ∧ as = bs := by
  cases more with
  | nil => exact ⟨rfl, (List.cons.inj h).2⟩
  | cons d more =>
    rw [List.cons_append, List.cons.injEq] at h
    exact absurd (h.2 ▸ by simp) ha

/-- The last occurrence of a character in a text divides it in one way only. -/
lemma append_cons_inj_of_notMem {c : Char} {xs ys as bs : List Char} (ha : c ∉ as) (hb : c ∉ bs)
    (h : xs ++ c :: as = ys ++ c :: bs) : xs = ys ∧ as = bs := by
  rcases List.append_eq_append_iff.mp h with ⟨more, rfl, hmore⟩ | ⟨more, rfl, hmore⟩
  · obtain ⟨rfl, rfl⟩ := cons_eq_append_cons ha hmore
    exact ⟨(List.append_nil xs).symm, rfl⟩
  · obtain ⟨rfl, rfl⟩ := cons_eq_append_cons hb hmore
    exact ⟨List.append_nil ys, rfl⟩

/-- The last column of a line, which begins with a tab and a title, and what stands before it. -/
lemma column_inj (title : List Char) {sep before before' value value' : String}
    (hsep : sep.toList = '\t' :: title) (htitle : '\t' ∉ title) (hvalue : '\t' ∉ value.toList)
    (hvalue' : '\t' ∉ value'.toList) (h : before ++ sep ++ value = before' ++ sep ++ value') :
    before = before' ∧ value = value' := by
  have hchars : before.toList ++ '\t' :: (title ++ value.toList)
      = before'.toList ++ '\t' :: (title ++ value'.toList) := by
    have hlists := congrArg String.toList h
    simpa only [String.toList_append, hsep, List.append_assoc, List.cons_append] using hlists
  obtain ⟨hbefore, hrest⟩ :=
    append_cons_inj_of_notMem (by simp [htitle, hvalue]) (by simp [htitle, hvalue']) hchars
  exact ⟨String.toList_inj.mp hbefore, String.toList_inj.mp (List.append_cancel_left hrest)⟩

/-- The label and the two columns of a comparison, whatever the label contains. -/
lemma columns_inj {label label' normal normal' compiled compiled' : String}
    (hnormal : '\t' ∉ normal.toList) (hnormal' : '\t' ∉ normal'.toList)
    (hcompiled : '\t' ∉ compiled.toList) (hcompiled' : '\t' ∉ compiled'.toList)
    (h : label ++ "\t normal: " ++ normal ++ "\tcompiled:" ++ compiled
      = label' ++ "\t normal: " ++ normal' ++ "\tcompiled:" ++ compiled') :
    label = label' ∧ normal = normal' ∧ compiled = compiled' := by
  obtain ⟨hleft, hright⟩ :=
    column_inj "compiled:".toList rfl (by decide) hcompiled hcompiled' h
  obtain ⟨hlabel, hmiddle⟩ :=
    column_inj " normal: ".toList rfl (by decide) hnormal hnormal' hleft
  exact ⟨hlabel, hmiddle, hright⟩

lemma tab_notMem_decimal (word : Int32) : '\t' ∉ (decimal word).toList :=
  notMem_decimal (by decide) (by decide) word

end Conformance.Text
