/-
# Trimmed texts

Trimming takes characters off an end of a text as long as they satisfy a condition.  What is taken
off satisfies it, and what is left does not begin or end with a character that does; the lemmas say
so for one end, and `Text.TrimsTo` for both.

The padding of a text is the blanks at its end.  Two texts are the same when their padding is taken
off if and only if they have a stem in common and nothing but padding behind it
(`Text.trimEnd_eq_iff`).
-/
import Conformance.Text.Blank
import Mathlib.Data.List.Basic
import Mathlib.Tactic.Common

namespace Conformance.Text

/-! ## One end -/

/-- A text without its last characters that satisfy `p`, and those characters. -/
lemma exists_eq_dropEndWhile_append (p : Char → Bool) (text : String) :
    ∃ tail : String, text = dropEndWhile p text ++ tail ∧ (∀ c ∈ tail.toList, p c = true) ∧
      ∀ c, (dropEndWhile p text).toList.getLast? = some c → p c = false := by
  refine ⟨String.ofList (text.toList.reverse.takeWhile p).reverse, ?_, ?_, ?_⟩
  · apply String.ext
    rw [dropEndWhile, String.toList_append, String.toList_ofList, String.toList_ofList,
      ← List.reverse_append, List.takeWhile_append_dropWhile, List.reverse_reverse]
  · intro c hc
    rw [String.toList_ofList, List.mem_reverse] at hc
    exact List.all_eq_true.mp List.all_takeWhile c hc
  · intro c hc
    rw [dropEndWhile, String.toList_ofList, List.getLast?_reverse] at hc
    have h := List.head?_dropWhile_not p text.toList.reverse
    rw [hc] at h
    exact h

/-- A text without its first characters that satisfy `p`, and those characters. -/
lemma exists_eq_append_dropStartWhile (p : Char → Bool) (text : String) :
    ∃ head : String, text = head ++ dropStartWhile p text ∧ (∀ c ∈ head.toList, p c = true) ∧
      ∀ c, (dropStartWhile p text).toList.head? = some c → p c = false := by
  refine ⟨String.ofList (text.toList.takeWhile p), ?_, ?_, ?_⟩
  · apply String.ext
    rw [dropStartWhile, String.toList_append, String.toList_ofList, String.toList_ofList,
      List.takeWhile_append_dropWhile]
  · intro c hc
    rw [String.toList_ofList] at hc
    exact List.all_eq_true.mp List.all_takeWhile c hc
  · intro c hc
    rw [dropStartWhile, String.toList_ofList] at hc
    have h := List.head?_dropWhile_not p text.toList
    rw [hc] at h
    exact h

/-! ## Both ends -/

/-- A text is another one with the blanks taken off both ends. -/
structure TrimsTo (text trimmed : String) : Prop where
  around : ∃ before after : String, text = before ++ trimmed ++ after ∧
    (∀ c ∈ before.toList, isBlank c = true) ∧ ∀ c ∈ after.toList, isBlank c = true
  first : ∀ c, trimmed.toList.head? = some c → isBlank c = false
  last : ∀ c, trimmed.toList.getLast? = some c → isBlank c = false

lemma trimsTo_trim (text : String) : TrimsTo text (trim text) := by
  obtain ⟨after, hafter, hblank, hlast⟩ := exists_eq_dropEndWhile_append isBlank text
  obtain ⟨before, hbefore, hblank', hfirst⟩ :=
    exists_eq_append_dropStartWhile isBlank (trimEnd text)
  refine ⟨⟨before, after, ?_, hblank', hblank⟩, hfirst, ?_⟩
  · rw [trim, ← hbefore]
    exact hafter
  · intro c hc
    -- unless nothing is left, what is left ends where the text without its last blanks ends
    have hend : (trimEnd text).toList.getLast? = some c := by
      have hc' : (dropStartWhile isBlank (trimEnd text)).toList.getLast? = some c := hc
      rw [hbefore, String.toList_append, List.getLast?_append, hc', Option.some_or]
    exact hlast c hend

/-! ## Padding -/

/-- Two texts that differ in no more than the blanks at their ends. -/
def SameUpToPadding (text text' : String) : Prop :=
  ∃ stem padding padding' : String, text = stem ++ padding ∧ text' = stem ++ padding' ∧
    (∀ c ∈ padding.toList, isBlank c = true) ∧ ∀ c ∈ padding'.toList, isBlank c = true

lemma trimEnd_append {stem padding : String} (h : ∀ c ∈ padding.toList, isBlank c = true) :
    trimEnd (stem ++ padding) = trimEnd stem := by
  have hreverse : ∀ c ∈ padding.toList.reverse, isBlank c = true := by simpa using h
  rw [trimEnd, trimEnd, dropEndWhile, dropEndWhile, String.toList_append, List.reverse_append,
    List.dropWhile_append_of_pos hreverse]

lemma trimEnd_eq_iff {text text' : String} :
    trimEnd text = trimEnd text' ↔ SameUpToPadding text text' := by
  constructor
  · intro h
    obtain ⟨padding, hsplit, hblank, -⟩ := exists_eq_dropEndWhile_append isBlank text
    obtain ⟨padding', hsplit', hblank', -⟩ := exists_eq_dropEndWhile_append isBlank text'
    refine ⟨trimEnd text, padding, padding', hsplit, ?_, hblank, hblank'⟩
    rw [h]
    exact hsplit'
  · rintro ⟨stem, padding, padding', rfl, rfl, hblank, hblank'⟩
    rw [trimEnd_append hblank, trimEnd_append hblank']

end Conformance.Text
