/-
# The verdict on a run

The analysis sees nothing but records.  This file says what its verdict means for the suite and the
backend that the records come from.  A probe *disagrees* if the value of its reference is not the
value that its compiled side reports: its literal, or the backend's answer to its own call.  Probes
that do not ask the reference, or ask one that does not exist, cannot disagree.

The record in each position differs exactly if the probe in that position disagrees, by
`Suite.differs_iff_disagreesAt`.  The main result, `Suite.verdict_sound_and_complete`, counts them.
-/
import Conformance.Analysis
import Conformance.Proofs.Records
import Mathlib.Data.Nat.Count

namespace Conformance

variable {σ τ : Type}

/-! ## Probes that compare, and probes that disagree -/

/-- Whether a probe sets two values side by side: it asks the reference, and there is one. -/
def Probe.isComparison (p : Probe) : Bool := p.referenceArgs.isSome && p.operation.hasReference

namespace Suite

/-- The number of probes that set two values side by side. -/
def comparisons (suite : Suite) : ℕ := suite.probes.countP Probe.isComparison

/-- The value that the compiled side of the probe in position `i` reports.  A literal is reported as
it is.  The answer to the probe's own call comes after the answers to the calls of the probes before
it. -/
def reported? (suite : Suite) (backend : Backend σ) (s : σ) (i : ℕ) : Option Int32 :=
  match suite.probes[i]? with
  | none => none
  | some p =>
    match p.compiled with
    | .literal value => some value
    | .call _ =>
      match (backend.answers suite.calls s)[
          ((suite.probes.take i).filterMap Probe.call?).length]? with
      | some (.ok value) => some value
      | _ => none

/-- The probe in position `i` disagrees: it has a reference value, and its compiled side reports
another one. -/
def DisagreesAt (suite : Suite) (backend : Backend σ) (s : σ) (i : ℕ) : Prop :=
  ∃ p ∈ suite.probes[i]?, ∃ normal ∈ p.referenceValue?, ∃ value ∈ suite.reported? backend s i,
    normal ≠ value

instance (suite : Suite) (backend : Backend σ) (s : σ) :
    DecidablePred (suite.DisagreesAt backend s) :=
  fun i => inferInstanceAs (Decidable (∃ p ∈ suite.probes[i]?, ∃ normal ∈ p.referenceValue?,
    ∃ value ∈ suite.reported? backend s i, normal ≠ value))

/-- The number of probes that disagree. -/
def disagreements (suite : Suite) (backend : Backend σ) (s : σ) : ℕ :=
  Nat.count (suite.DisagreesAt backend s) suite.size

end Suite

/-! ## Records, one by one -/

lemma Probe.referenceValue?_eq_none {p : Probe}
    (h : p.referenceArgs = none ∨ p.operation.reference? = none) : p.referenceValue? = none := by
  unfold Probe.referenceValue?
  rcases h with h | h
  · rw [h]
  · cases p.referenceArgs <;> simp [h]

lemma Probe.isSome_referenceValue? {p : Probe} (hp : p.referenceFailure? = none) :
    p.referenceValue?.isSome = p.isComparison := by
  rw [Probe.referenceValue?, Probe.isComparison, Operation.hasReference]
  cases hargs : p.referenceArgs with
  | none => rfl
  | some args =>
    have hlen := Probe.referenceFailure?_eq_none_iff.mp hp args hargs
    simp [hlen]

namespace Record

lemma differs_iff {r : Record} : r.differs = true ↔ ∃ normal ∈ r.normal, normal ≠ r.compiled := by
  unfold differs
  cases r.normal <;> simp

namespace Reports

variable {r : Record} {under : Option String} {p : Probe} {answer? : Option (Except Failure Int32)}

/-- The arguments of the reference are as many as it takes, since there is a record. -/
lemma referenceFailure?_eq_none (h : r.Reports under p answer?) : p.referenceFailure? = none := by
  rw [Probe.referenceFailure?_eq_none_iff]
  intro args hargs
  obtain ⟨hlen, -⟩ := h.normal_of_some args hargs
  exact hlen

lemma normal_eq (h : r.Reports under p answer?) : r.normal = p.referenceValue? := by
  unfold Probe.referenceValue?
  cases hargs : p.referenceArgs with
  | none => exact h.normal_of_none hargs
  | some args =>
    obtain ⟨hlen, hnormal⟩ := h.normal_of_some args hargs
    simp only [hnormal, dif_pos hlen]

lemma isComparison_eq (h : r.Reports under p answer?) : r.isComparison = p.isComparison := by
  rw [Record.isComparison, h.normal_eq, Probe.isSome_referenceValue? h.referenceFailure?_eq_none]

end Reports

end Record

namespace Suite

variable {suite : Suite} {backend : Backend σ} {s : σ} {i : ℕ} {p : Probe} {r : Record}
  {under : Option String}

/-- The value in a record is the one that the compiled side of its probe reports. -/
lemma reported?_of_reports (hp : suite.probes[i]? = some p)
    (h : r.Reports under p
      (backend.answers suite.calls s)[((suite.probes.take i).filterMap Probe.call?).length]?) :
    suite.reported? backend s i = some r.compiled := by
  unfold reported?
  rw [hp]
  cases hc : p.compiled with
  | literal value =>
    obtain ⟨-, hvalue⟩ := h.literal value hc
    simp [hc, hvalue]
  | call args =>
    obtain ⟨-, hanswer⟩ := h.call args hc
    simp [hc, hanswer]

/-- A record differs exactly if its probe disagrees. -/
lemma differs_iff_disagreesAt (hp : suite.probes[i]? = some p)
    (h : r.Reports under p
      (backend.answers suite.calls s)[((suite.probes.take i).filterMap Probe.call?).length]?) :
    r.differs = true ↔ suite.DisagreesAt backend s i := by
  rw [Record.differs_iff, DisagreesAt, hp, reported?_of_reports hp h, h.normal_eq]
  simp

end Suite

/-! ## Counting -/

/-- The members of a list that satisfy `q` are counted by their positions. -/
lemma countP_eq_count_positions {α : Type} {q : α → Bool} {P : ℕ → Prop} [DecidablePred P]
    (xs : List α) (h : ∀ (i : ℕ) (x : α), xs[i]? = some x → (q x = true ↔ P i)) :
    xs.countP q = Nat.count P xs.length := by
  -- from the end, so that the positions of the other members stay as they are
  induction xs using List.reverseRecOn with
  | nil => rfl
  | append_singleton xs x ih =>
    have hlast : q x = true ↔ P xs.length := h xs.length x (by simp)
    have hinit : xs.countP q = Nat.count P xs.length := by
      apply ih
      intro i y hy
      refine h i y ?_
      rw [List.getElem?_append_left (List.getElem?_eq_some_iff.mp hy).1, hy]
    rw [List.countP_append, hinit, List.length_append, List.length_singleton, Nat.count_succ,
      List.countP_singleton]
    simp only [hlast]

lemma length_differing (records : List Record) :
    (differing records).length = records.countP Record.differs := by
  rw [differing, List.countP_eq_length_filter]

/-- The verdict depends on the number of records that differ. -/
lemma analyze_eq_ok_iff {records : List Record} :
    analyze records = .ok () ↔ records.countP Record.differs = 0 := by
  rw [← length_differing, List.length_eq_zero_iff, analyze]
  cases differing records <;> simp

lemma analyze_of_ne_zero {records : List Record} (h : records.countP Record.differs ≠ 0) :
    ∃ entries, analyze records = .error (.mismatch (records.countP Record.differs) entries) := by
  rw [← length_differing] at h ⊢
  rw [analyze]
  cases hd : differing records with
  | nil => exact absurd (congrArg List.length hd) h
  | cons r rest => exact ⟨_, rfl⟩

lemma summarize_of_analyze_ok {records : List Record} (h : analyze records = .ok ()) :
    summarize records = .clean (records.countP Record.isComparison) := by
  rw [summarize, h, List.countP_eq_length_filter]

/-! ## The verdict -/

section Run

variable {backend : Backend σ} {sink : Sink τ} {suite : Suite} {s : σ} {t : τ}
  {records : List Record}

/-- The record of the probe in position `i` of a run that succeeds. -/
lemma Suite.exists_record_of_run (h : (suite.run backend sink s t).result = .ok records) {i : ℕ}
    {p : Probe} (hp : suite.probes[i]? = some p) :
    ∃ r under, records[i]? = some r ∧
      r.Reports under p
        (backend.answers suite.calls s)[((suite.probes.take i).filterMap Probe.call?).length]? := by
  obtain ⟨s', hanswered⟩ := Suite.answered_of_run h
  rw [← suite.map_snd_placed, List.getElem?_map, Option.map_eq_some_iff] at hp
  obtain ⟨⟨under, p⟩, hplaced, rfl⟩ := hp
  obtain ⟨r, hr, hreports⟩ := hanswered.getElem?_reports i under p hplaced
  rw [suite.map_snd_placed] at hreports
  exact ⟨r, under, hr, hreports⟩

/-- The records that differ are as many as the probes that disagree. -/
lemma Suite.countP_differs_of_run (h : (suite.run backend sink s t).result = .ok records) :
    records.countP Record.differs = suite.disagreements backend s := by
  rw [Suite.disagreements, ← Suite.length_of_run h]
  apply countP_eq_count_positions
  intro i r hr
  have hi : i < suite.probes.length := by
    rw [suite.length_probes, ← Suite.length_of_run h]
    exact (List.getElem?_eq_some_iff.mp hr).1
  have hp : suite.probes[i]? = some suite.probes[i] := List.getElem?_eq_getElem hi
  obtain ⟨r', under, hr', hreports⟩ := Suite.exists_record_of_run h hp
  obtain rfl : r = r' := Option.some.inj (hr.symm.trans hr')
  exact Suite.differs_iff_disagreesAt hp hreports

/-- The records that set two values side by side are as many as the probes that do. -/
lemma Suite.countP_isComparison_of_run (h : (suite.run backend sink s t).result = .ok records) :
    records.countP Record.isComparison = suite.comparisons := by
  have hmap : records.map Record.isComparison = suite.probes.map Probe.isComparison := by
    apply List.ext_getElem?
    intro i
    rw [List.getElem?_map, List.getElem?_map]
    cases hp : suite.probes[i]? with
    | none =>
      have hlen : records.length ≤ i := by
        rw [Suite.length_of_run h, ← suite.length_probes]
        exact List.getElem?_eq_none_iff.mp hp
      rw [List.getElem?_eq_none_iff.mpr hlen]
      rfl
    | some p =>
      obtain ⟨r, under, hr, hreports⟩ := Suite.exists_record_of_run h hp
      rw [hr, Option.map_some, Option.map_some, hreports.isComparison_eq]
  have hcount := congrArg (List.countP id) hmap
  rw [List.countP_map, List.countP_map] at hcount
  exact hcount

end Run

/-- **The verdict on a run is sound and complete.**  Let a run succeed, with any backend and any
sink.  The record in each position carries the value that its probe's compiled side reported, and
differs exactly if the probe disagrees; a probe without reference arguments, or of an operation
without a reference, does not contribute, however it is laid out.  The analysis succeeds exactly if
no probe disagrees, and otherwise counts those that do.  If it succeeds, the summary counts the
probes that set two values side by side. -/
theorem Suite.verdict_sound_and_complete (backend : Backend σ) (sink : Sink τ) (suite : Suite)
    (s : σ) (t : τ) (records : List Record)
    (h : (suite.run backend sink s t).result = .ok records) :
    (∀ (i : ℕ) (p : Probe), suite.probes[i]? = some p → ∃ r, records[i]? = some r ∧
      suite.reported? backend s i = some r.compiled ∧
      (r.differs = true ↔ suite.DisagreesAt backend s i) ∧
      (p.referenceArgs = none ∨ p.operation.reference? = none →
        r.differs = false ∧ r.isComparison = false)) ∧
    (analyze records = .ok () ↔ suite.disagreements backend s = 0) ∧
    (suite.disagreements backend s ≠ 0 → ∃ entries,
      analyze records = .error (.mismatch (suite.disagreements backend s) entries)) ∧
    (suite.disagreements backend s = 0 → summarize records = .clean suite.comparisons) := by
  have hcount := Suite.countP_differs_of_run h
  refine ⟨?_, ?_, ?_, ?_⟩
  · intro i p hp
    obtain ⟨r, under, hr, hreports⟩ := Suite.exists_record_of_run h hp
    refine ⟨r, hr, Suite.reported?_of_reports hp hreports,
      Suite.differs_iff_disagreesAt hp hreports, fun hnone => ?_⟩
    have hnormal : r.normal = none := by
      rw [hreports.normal_eq, Probe.referenceValue?_eq_none hnone]
    simp [Record.differs, Record.isComparison, hnormal]
  · rw [analyze_eq_ok_iff, hcount]
  · intro hne
    rw [← hcount] at hne ⊢
    exact analyze_of_ne_zero hne
  · intro hzero
    rw [← hcount] at hzero
    rw [summarize_of_analyze_ok (analyze_eq_ok_iff.mpr hzero), Suite.countP_isComparison_of_run h]

/-- A suite in which every kind of probe occurs: two disagree, one of them without columns; two do
not, one of them with a literal; and two have nothing to compare. -/
def Suite.everyKind : Suite :=
  ⟨[⟨some "compared:", [.compare .greater "wrong answer" [2, 1],
      .compareWith .factorial "literal" [5] (.literal 120),
      ⟨.fibonacci, "wrong answer, bare", some [10], .call [11], .bare⟩]⟩,
    ⟨none, [.compare .even "no reference" [4], .observe .lesser "not asked" [1, 2] .comparison,
      .compare .lesser "right answer" [1, 2]]⟩]⟩

/-- Only the two probes with a reference value and another answer are counted. -/
theorem Suite.verdict_everyKind :
    ∃ records entries,
      (Suite.everyKind.run (Backend.scripted "scripted" [7, 89, 5, 5, 1]) Sink.discard 0 ()).result
        = .ok records ∧
      analyze records = .error (.mismatch 2 entries) ∧
      Suite.everyKind.disagreements (Backend.scripted "scripted" [7, 89, 5, 5, 1]) 0 = 2 ∧
      Suite.everyKind.comparisons = 4 := by
  have hrun : ∃ records, (Suite.everyKind.run (Backend.scripted "scripted" [7, 89, 5, 5, 1])
      Sink.discard 0 ()).result = .ok records := ⟨_, rfl⟩
  have hcount :
      Suite.everyKind.disagreements (Backend.scripted "scripted" [7, 89, 5, 5, 1]) 0 = 2 := by
    decide +kernel
  obtain ⟨records, hrecords⟩ := hrun
  obtain ⟨-, -, hmismatch, -⟩ := Suite.verdict_sound_and_complete _ _ _ _ _ _ hrecords
  rw [hcount] at hmismatch
  obtain ⟨entries, hentries⟩ := hmismatch (by decide)
  exact ⟨records, entries, hrecords, hentries, hcount, by decide⟩

end Conformance
