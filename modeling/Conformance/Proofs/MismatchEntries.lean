/-
# The entries of a mismatch

A mismatch counts records but lists cases.  Several records may belong to one case, because a label
may be padded in different ways and a probe may be repeated, so the list is shorter than the count
says.  `ListsOnce xs entries` says what the list has to be: the members of `xs`, each once, in the
order in which they occur first.  It leaves no choice (`ListsOnce.eq`), which makes it a convenient
description: that the list of one run is continued by another (`ListsOnce.append`) is a matter of
checking the description, and the way the list is computed does not matter.

What a case is, is said by its entry, the function and the label without its padding.  A space
stands between them, and a label may contain spaces, but the symbol of an operation does not, so the
entry of such a record determines both.

The main result is `analysis_counts_and_lists`.
-/
import Conformance.Proofs.Numerals
import Conformance.Proofs.Trimming
import Conformance.Proofs.Verdict
import Mathlib.Data.List.Nodup
import Mathlib.Data.List.Perm.Basic

namespace Conformance

/-! ## Lists without repetition -/

section Lists

variable {α : Type} [BEq α]

/-- The list `entries` has the members of `xs`, each once, in the order of their first
occurrences. -/
structure ListsOnce (xs entries : List α) : Prop where
  mem_iff : ∀ a, a ∈ entries ↔ a ∈ xs
  nodup : entries.Nodup
  ordered : entries.Pairwise fun a b => xs.idxOf a < xs.idxOf b

/-- There is only one such list. -/
lemma ListsOnce.eq {xs entries entries' : List α} (h : ListsOnce xs entries)
    (h' : ListsOnce xs entries') : entries = entries' := by
  have hperm : entries.Perm entries' := by
    rw [List.perm_ext_iff_of_nodup h.nodup h'.nodup]
    intro a
    rw [h.mem_iff, h'.mem_iff]
  refine hperm.eq_of_pairwise ?_ h.ordered h'.ordered
  intro a b _ _ hab hba
  omega

variable [LawfulBEq α]

/-- A list is continued by what another list adds to it. -/
lemma ListsOnce.append {xs ys entries entries' : List α} (h : ListsOnce xs entries)
    (h' : ListsOnce ys entries') :
    ListsOnce (xs ++ ys) (entries ++ entries'.filter fun a => !entries.contains a) := by
  have hnew : ∀ a, a ∈ entries'.filter (fun a => !entries.contains a) ↔ a ∈ ys ∧ a ∉ xs := by
    intro a
    simp [List.mem_filter, h.mem_iff, h'.mem_iff]
  refine ⟨?_, ?_, ?_⟩
  · intro a
    rw [List.mem_append, List.mem_append, hnew, h.mem_iff]
    tauto
  · refine List.nodup_append'.mpr ⟨h.nodup, h'.nodup.filter _, ?_⟩
    intro a ha ha'
    exact ((hnew a).mp ha').2 ((h.mem_iff a).mp ha)
  · rw [List.pairwise_append]
    refine ⟨?_, ?_, ?_⟩
    · refine h.ordered.imp_of_mem ?_
      intro a b ha hb hab
      rwa [List.idxOf_append_of_mem ((h.mem_iff a).mp ha),
        List.idxOf_append_of_mem ((h.mem_iff b).mp hb)]
    · refine (h'.ordered.filter _).imp_of_mem ?_
      intro a b ha hb hab
      rw [List.idxOf_append_of_notMem ((hnew a).mp ha).2,
        List.idxOf_append_of_notMem ((hnew b).mp hb).2]
      omega
    · intro a ha b hb
      have hmem : a ∈ xs := (h.mem_iff a).mp ha
      have hlt : xs.idxOf a < xs.length := List.idxOf_lt_length_of_mem hmem
      rw [List.idxOf_append_of_mem hmem, List.idxOf_append_of_notMem ((hnew b).mp hb).2]
      omega

lemma mem_firstOccurrences {seen xs : List α} {a : α} :
    a ∈ firstOccurrences seen xs ↔ a ∈ xs ∧ a ∉ seen := by
  induction xs generalizing seen with
  | nil => simp [firstOccurrences]
  | cons x xs ih =>
    rw [firstOccurrences]
    by_cases hx : x ∈ seen
    · rw [if_pos (List.contains_iff_mem.mpr hx), ih, List.mem_cons]
      constructor
      · rintro ⟨ha, hseen⟩
        exact ⟨.inr ha, hseen⟩
      · rintro ⟨rfl | ha, hseen⟩
        · exact absurd hx hseen
        · exact ⟨ha, hseen⟩
    · rw [if_neg (by simpa using hx), List.mem_cons, ih, List.mem_cons, List.mem_cons]
      by_cases hax : a = x
      · subst hax
        simp [hx]
      · simp [hax]

/-- Members that were seen before are passed over, and the others keep their order. -/
lemma pairwise_firstOccurrences (seen xs : List α) :
    (firstOccurrences seen xs).Pairwise fun a b => xs.idxOf a < xs.idxOf b := by
  induction xs generalizing seen with
  | nil => exact .nil
  | cons x xs ih =>
    -- behind `x` everything is one position further on
    have hshift : ∀ {seen' : List α}, x ∈ seen' →
        (firstOccurrences seen' xs).Pairwise fun a b =>
          (x :: xs).idxOf a < (x :: xs).idxOf b := by
      intro seen' hx
      refine (ih seen').imp_of_mem ?_
      intro a b ha hb hab
      have hxa : x ≠ a := fun h => (mem_firstOccurrences.mp ha).2 (h ▸ hx)
      have hxb : x ≠ b := fun h => (mem_firstOccurrences.mp hb).2 (h ▸ hx)
      rw [List.idxOf_cons_ne _ hxa, List.idxOf_cons_ne _ hxb]
      omega
    rw [firstOccurrences]
    by_cases hx : x ∈ seen
    · rw [if_pos (List.contains_iff_mem.mpr hx)]
      exact hshift hx
    · rw [if_neg (by simpa using hx), List.pairwise_cons]
      refine ⟨?_, hshift List.mem_cons_self⟩
      intro a ha
      have hxa : x ≠ a := fun h => (mem_firstOccurrences.mp ha).2 (h ▸ List.mem_cons_self)
      rw [List.idxOf_cons_self, List.idxOf_cons_ne _ hxa]
      omega

lemma listsOnce_firstOccurrences (xs : List α) : ListsOnce xs (firstOccurrences [] xs) := by
  refine ⟨?_, ?_, pairwise_firstOccurrences [] xs⟩
  · intro a
    simp [mem_firstOccurrences]
  · refine (pairwise_firstOccurrences [] xs).imp ?_
    rintro a b hab rfl
    omega

end Lists

/-! ## Entries -/

namespace Text

/-- A text up to its first space, and what comes after it. -/
lemma append_space_inj {first first' rest rest' : String} (h : ' ' ∉ first.toList)
    (h' : ' ' ∉ first'.toList) (heq : first ++ " " ++ rest = first' ++ " " ++ rest') :
    first = first' ∧ rest = rest' := by
  have hspace : " ".toList = [' '] := rfl
  have hchars := congrArg (fun text => text.toList.reverse) heq
  simp only [String.toList_append, hspace, List.reverse_append, List.reverse_singleton,
    List.singleton_append] at hchars
  obtain ⟨hrest, hfirst⟩ :=
    append_cons_inj_of_notMem (by simpa using h) (by simpa using h') hchars
  exact ⟨String.toList_inj.mp (List.reverse_inj.mp hfirst),
    String.toList_inj.mp (List.reverse_inj.mp hrest)⟩

end Text

lemma Operation.space_notMem_symbol (op : Operation) : ' ' ∉ op.symbol.toList := by
  cases op <;> decide

/-- Records of operations belong to the same case exactly if they have the same function, and the
same label but for the padding. -/
lemma Record.entry_eq_iff {r r' : Record} {op op' : Operation} (h : r.function = op.symbol)
    (h' : r'.function = op'.symbol) :
    r.entry = r'.entry ↔ r.function = r'.function ∧ Text.SameUpToPadding r.label r'.label := by
  rw [← Text.trimEnd_eq_iff, Record.entry, Record.entry]
  constructor
  · intro heq
    apply Text.append_space_inj _ _ heq
    · rw [h]
      exact op.space_notMem_symbol
    · rw [h']
      exact op'.space_notMem_symbol
  · rintro ⟨hfunction, hlabel⟩
    rw [hfunction, hlabel]

/-! ## The analysis -/

/-- The number of records that a verdict counts. -/
def mismatchCount : Except Failure Unit → ℕ
  | .error (.mismatch count _) => count
  | _ => 0

/-- The entries that a verdict lists. -/
def mismatchEntries : Except Failure Unit → List String
  | .error (.mismatch _ entries) => entries
  | _ => []

lemma mismatchCount_analyze (records : List Record) :
    mismatchCount (analyze records) = records.countP Record.differs := by
  rw [← length_differing, analyze]
  cases differing records <;> rfl

lemma mismatchEntries_analyze (records : List Record) :
    mismatchEntries (analyze records)
      = firstOccurrences [] ((differing records).map Record.entry) := by
  rw [analyze]
  cases differing records <;> rfl

lemma listsOnce_mismatchEntries (records : List Record) :
    ListsOnce ((differing records).map Record.entry) (mismatchEntries (analyze records)) := by
  rw [mismatchEntries_analyze]
  exact listsOnce_firstOccurrences _

lemma analyze_of_exists_differs {records : List Record} (h : ∃ r ∈ records, r.differs = true) :
    analyze records = .error
      (.mismatch (records.countP Record.differs) (mismatchEntries (analyze records))) := by
  have hne : records.countP Record.differs ≠ 0 := by
    rw [← Nat.pos_iff_ne_zero, List.countP_pos_iff]
    exact h
  obtain ⟨entries, hentries⟩ := analyze_of_ne_zero hne
  rw [hentries]
  rfl

lemma countP_differs_eq_zero_iff {records : List Record} :
    records.countP Record.differs = 0 ↔ ∀ r ∈ records, r.differs = false := by
  simp [List.countP_eq_zero]

/-- **The analysis counts records and lists cases.**  It succeeds exactly if no record differs, and
then the summary counts the records that set two values side by side.  Otherwise it counts the
records that differ, and lists their entries, each once and in the order of their first occurrences;
the headline of the summary is the text of that failure, and the details describe the records that
differ, one by one.  An entry is the function and the label without the blanks at its end.  Records
of operations share one exactly if they have the same function, and the same label but for those
blanks.  If more records follow, the counts add up, and the list goes on with the entries that are
new. -/
theorem analysis_counts_and_lists (records : List Record) :
    (analyze records = .ok () ↔ ∀ r ∈ records, r.differs = false) ∧
    ((∀ r ∈ records, r.differs = false) →
      summarize records = .clean (records.countP Record.isComparison)) ∧
    ((∃ r ∈ records, r.differs = true) → ∃ (entries details : List String),
      analyze records = .error (.mismatch (records.countP Record.differs) entries) ∧
      ListsOnce ((records.filter Record.differs).map Record.entry) entries ∧
      details = (records.filter Record.differs).map Record.describe ∧
      details.length = records.countP Record.differs ∧
      summarize records
        = .mismatched (Failure.mismatch (records.countP Record.differs) entries).message details) ∧
    (∀ r ∈ records, ∃ stem padding : String, r.label = stem ++ padding ∧
      (∀ c ∈ padding.toList, Text.isBlank c = true) ∧
      (∀ c, stem.toList.getLast? = some c → Text.isBlank c = false) ∧
      r.entry = r.function ++ " " ++ stem) ∧
    ((∀ r ∈ records, ∃ op : Operation, r.function = op.symbol) →
      ∀ r ∈ records, r.differs = true → ∀ r' ∈ records, r'.differs = true →
        (r.entry = r'.entry ↔
          r.function = r'.function ∧ Text.SameUpToPadding r.label r'.label)) ∧
    ∀ more : List Record,
      mismatchCount (analyze (records ++ more))
        = mismatchCount (analyze records) + mismatchCount (analyze more) ∧
      mismatchEntries (analyze (records ++ more))
        = mismatchEntries (analyze records) ++ (mismatchEntries (analyze more)).filter
            fun entry => !(mismatchEntries (analyze records)).contains entry := by
  refine ⟨?_, ?_, ?_, ?_, ?_, ?_⟩
  · rw [analyze_eq_ok_iff, countP_differs_eq_zero_iff]
  · intro h
    exact summarize_of_analyze_ok (analyze_eq_ok_iff.mpr (countP_differs_eq_zero_iff.mpr h))
  · intro h
    have hanalyze := analyze_of_exists_differs h
    refine ⟨_, _, hanalyze, listsOnce_mismatchEntries records, rfl, ?_, ?_⟩
    · rw [List.length_map, List.countP_eq_length_filter]
    · rw [summarize, hanalyze]
      rfl
  · intro r _
    obtain ⟨padding, hsplit, hblank, hlast⟩ :=
      Text.exists_eq_dropEndWhile_append Text.isBlank r.label
    exact ⟨_, padding, hsplit, hblank, hlast, rfl⟩
  · intro hsymbols r hr _ r' hr' _
    obtain ⟨op, hop⟩ := hsymbols r hr
    obtain ⟨op', hop'⟩ := hsymbols r' hr'
    exact Record.entry_eq_iff hop hop'
  · intro more
    constructor
    · simp only [mismatchCount_analyze, List.countP_append]
    · have hwhole := listsOnce_mismatchEntries (records ++ more)
      rw [differing, List.filter_append, List.map_append] at hwhole
      exact hwhole.eq ((listsOnce_mismatchEntries records).append (listsOnce_mismatchEntries more))

/-- Three of four records differ.  Two of the three belong to one case, which is padded in two ways,
so that two entries are listed; one of them has a literal in place of a call. -/
example :
    summarize
        [.mk none "even" "even(7):\t" (some [7]) (some 0) (some [7]) 1 .comparison,
         .mk none "odd" "odd(7): " (some [7]) (some 1) (some [7]) 1 .comparison,
         .mk none "even" "even(7):" (some [7]) (some 0) (some [7]) (-1) .comparison,
         .mk none "odd" "odd(-8):" (some [-8]) (some 0) none 9 .comparison]
      = .mismatched
          "3 result(s) differ between reference and compiled: even even(7):, odd odd(-8):"
          ["even(7) = 0, compiled even(7) = 1", "even(7) = 0, compiled even(7) = -1",
           "odd(-8) = 0, compiled literal 9"] := by
  decide +kernel

/-- Without the symbols a space can belong to either part of an entry. -/
example :
    (Record.mk none "f a" "b" none (some 1) none 2 .bare).entry
      = (Record.mk none "f" "a b \t" none (some 1) none 2 .bare).entry := by
  decide +kernel

end Conformance
