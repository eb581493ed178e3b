/-
# Regrouping a suite

A group without heading puts nothing into a report of its own.  Its probes may as well stand at the
end of the group before it, and if it has no probes it may as well be left out.  All that such a
regrouping changes is the `group` of some records, since the probes that are moved come to stand
under the heading of the other group.

The idea of the proof is to forget the groups.  `Step.ungrouped` takes the heading from a step of
the plan, and `Record.ungrouped` takes the group from a record.  A sink that writes lines of text
does not look at the groups, so performing the ungrouped plan is performing the plan and forgetting
the groups afterwards.  The plans of a suite and of a regrouping of it are the same without groups.

The main result is `Suite.regrouping_invisible`.
-/
import Conformance.Proofs.Verdict
import Mathlib.Data.List.Forall2

namespace Conformance

/-- One regrouping: the probes of a group without heading are moved to the group before it, or a
group with neither heading nor probes is left out. -/
inductive Suite.Regroups : Suite → Suite → Prop
  | merge (before after : List ProbeGroup) (heading : Option String) (probes more : List Probe) :
      Regroups ⟨before ++ ⟨heading, probes⟩ :: ⟨none, more⟩ :: after⟩
        ⟨before ++ ⟨heading, probes ++ more⟩ :: after⟩
  | drop (before after : List ProbeGroup) :
      Regroups ⟨before ++ ⟨none, []⟩ :: after⟩ ⟨before ++ after⟩

/-! ## Forgetting groups -/

/-- A record without its group. -/
def Record.ungrouped (r : Record) : Record := { r with group := none }

/-- An event without the group of its record. -/
def Event.ungrouped : Event → Event
  | record r => record r.ungrouped
  | event => event

/-- A step that does not know the heading above its probe. -/
def Step.ungrouped : Step → Step
  | probe _ p => probe none p
  | step => step

/-- The same progress, with the groups forgotten. -/
def Progress.ungrouped {σ τ : Type} (b : Progress σ τ) : Progress σ τ :=
  { b with events := b.events.map Event.ungrouped, records := b.records.map Record.ungrouped }

/-- A sink that does not look at groups. -/
def Sink.IgnoresGroups {τ : Type} (sink : Sink τ) : Prop :=
  ∀ (event : Event) (t : τ), sink.accept event.ungrouped t = sink.accept event t

lemma Sink.ignoresGroups_report {ω : Type} (w : Writer ω) :
    (Sink.report .text w).IgnoresGroups := by
  intro event t
  cases event with
  | heading text => rfl
  | finish => rfl
  | record r => rfl

section Steps

variable {σ τ : Type} {backend : Backend σ} {sink : Sink τ}

lemma Progress.offer_ungrouped (h : sink.IgnoresGroups) (event : Event) (b : Progress σ τ) :
    b.ungrouped.offer sink event.ungrouped = Prod.map id ungrouped (b.offer sink event) := by
  have haccept : sink.accept event.ungrouped b.sink = sink.accept event b.sink := h event b.sink
  simp [Progress.offer, ungrouped, haccept]

lemma Step.attempt_ungrouped (backend : Backend σ) (h : sink.IgnoresGroups) (step : Step)
    (b : Progress σ τ) :
    step.ungrouped.attempt backend sink b.ungrouped
      = Prod.map id Progress.ungrouped (step.attempt backend sink b) := by
  cases step with
  | heading text => exact b.offer_ungrouped h (.heading text)
  | finish => exact b.offer_ungrouped h .finish
  | record =>
    have hlast : b.ungrouped.records.getLast? = b.records.getLast?.map Record.ungrouped :=
      List.getLast?_map
    change record.attempt backend sink b.ungrouped = _
    rw [attempt, attempt, hlast]
    rcases b.records.getLast? with _ | r
    · rfl
    · exact b.offer_ungrouped h (.record r)
  | probe under p =>
    -- the heading goes nowhere but into the record
    rw [ungrouped]
    rcases p.cases with
      ⟨failure, hp⟩ | ⟨value, hp, hc⟩ | ⟨args, hlen, hp, hc⟩ | ⟨args, hlen, hp, hc⟩
    · rw [attempt_of_referenceFailure _ _ _ _ hp, attempt_of_referenceFailure _ _ _ _ hp]
      rfl
    · rw [attempt_of_literal _ _ _ _ hp hc, attempt_of_literal _ _ _ _ hp hc]
      simp [Progress.noted, Progress.ungrouped, Record.ungrouped, Probe.record]
    · rw [attempt_of_call _ _ _ _ hp hc hlen, attempt_of_call _ _ _ _ hp hc hlen]
      simp [Progress.answered, Progress.ungrouped, Record.ungrouped, Probe.record]
    · rw [attempt_of_call_refused _ _ _ _ hp hc hlen, attempt_of_call_refused _ _ _ _ hp hc hlen]
      rfl

lemma Step.performAll_ungrouped (backend : Backend σ) (h : sink.IgnoresGroups)
    (steps : List Step) (b : Progress σ τ) :
    performAll backend sink (steps.map ungrouped) b.ungrouped
      = Prod.map id Progress.ungrouped (performAll backend sink steps b) := by
  induction steps generalizing b with
  | nil => rfl
  | cons step steps ih =>
    have hstep := step.attempt_ungrouped backend h b
    rw [List.map_cons]
    rcases hs : step.attempt backend sink b with ⟨_ | failure, a⟩ <;> rw [hs] at hstep
    · rw [performAll_cons_of_none hs, performAll_cons_of_none hstep]
      exact ih a
    · rw [performAll_cons_of_some hs, performAll_cons_of_some hstep]
      rfl

lemma Progress.outcome_ungrouped (r : Option Failure × Progress σ τ) :
    outcome (Prod.map id ungrouped r) = (outcome r).map (List.map Record.ungrouped) := by
  rcases r with ⟨_ | failure, a⟩ <;> rfl

/-- A run, with the groups of its records forgotten, performs the plan without groups. -/
lemma Suite.run_map_ungrouped (h : sink.IgnoresGroups) (suite : Suite) (s : σ) (t : τ) :
    (suite.run backend sink s t).map (List.map Record.ungrouped)
      = Progress.outcome
          (Step.performAll backend sink (suite.plan.map Step.ungrouped) (.start s t)) := by
  have hstart : (Progress.start s t).ungrouped = Progress.start s t := rfl
  have hperform := Step.performAll_ungrouped backend h suite.plan (.start s t)
  rw [hstart] at hperform
  rw [hperform, Progress.outcome_ungrouped, Suite.run_eq_performAll]

end Steps

/-! ## Plans without groups -/

lemma ProbeGroup.map_ungrouped_plan (g : ProbeGroup) :
    g.plan.map Step.ungrouped
      = (g.heading.map Step.heading).toList ++ g.probes.flatMap (Probe.plan none) := by
  have hheading : (g.heading.map Step.heading).toList.map Step.ungrouped
      = (g.heading.map Step.heading).toList := by
    cases g.heading <;> rfl
  rw [ProbeGroup.plan, List.map_append, hheading, List.map_flatMap]
  rfl

lemma Suite.map_ungrouped_plan (suite : Suite) :
    suite.plan.map Step.ungrouped
      = (suite.groups.flatMap fun g =>
          (g.heading.map Step.heading).toList ++ g.probes.flatMap (Probe.plan none))
        ++ [.finish] := by
  rw [Suite.plan, List.map_append, Suite.body, List.map_flatMap]
  simp only [ProbeGroup.map_ungrouped_plan]
  rfl

lemma Suite.Regroups.plan_eq {suite suite' : Suite} (h : suite.Regroups suite') :
    suite'.plan.map Step.ungrouped = suite.plan.map Step.ungrouped := by
  rw [Suite.map_ungrouped_plan, Suite.map_ungrouped_plan]
  cases h with
  | merge before after heading probes more => simp
  | drop before after => simp

/-! ## The analysis -/

lemma differing_map_ungrouped (records : List Record) :
    differing (records.map Record.ungrouped) = (differing records).map Record.ungrouped := by
  rw [differing, differing, List.filter_map]
  rfl

lemma analyze_map_ungrouped (records : List Record) :
    analyze (records.map Record.ungrouped) = analyze records := by
  have hentries : ∀ mismatched : List Record,
      (mismatched.map Record.ungrouped).map Record.entry = mismatched.map Record.entry := by
    intro mismatched
    rw [List.map_map]
    rfl
  rw [analyze, analyze, differing_map_ungrouped]
  cases differing records with
  | nil => rfl
  | cons r rest =>
    have hcons := hentries (r :: rest)
    simp only [List.map_cons] at hcons ⊢
    rw [hcons]
    simp

lemma summarize_map_ungrouped (records : List Record) :
    summarize (records.map Record.ungrouped) = summarize records := by
  have hcompared : ((records.map Record.ungrouped).filter Record.isComparison).length
      = (records.filter Record.isComparison).length := by
    rw [List.filter_map, List.length_map]
    rfl
  have hdetails : (differing (records.map Record.ungrouped)).map Record.describe
      = (differing records).map Record.describe := by
    rw [differing_map_ungrouped, List.map_map]
    rfl
  rw [summarize, summarize, analyze_map_ungrouped, hcompared, hdetails]

/-! ## Regrouping -/

lemma Record.forall₂_of_map_ungrouped {records records' : List Record}
    (h : records'.map Record.ungrouped = records.map Record.ungrouped) :
    List.Forall₂ (fun r r' => r' = { r with group := r'.group }) records records' := by
  have heq : List.Forall₂ (fun r r' : Record => r'.ungrouped = r.ungrouped) records records' := by
    have hforall := List.forall₂_eq_eq_eq ▸ h.symm
    rw [List.forall₂_map_left_iff, List.forall₂_map_right_iff] at hforall
    exact hforall.imp fun _ _ hr => hr.symm
  refine heq.imp ?_
  rintro ⟨⟩ ⟨⟩ hr
  simp_all [Record.ungrouped]

/-- **Regrouping is invisible outside the groups of the records.**  Let a suite be run before and
after a regrouping, with the same backend and as text into the same writer, which may be of any kind
and fail at any time.  The writer is left in the same state, so that it holds the same bytes and was
flushed as often.  The backend is left in the same state and saw the same calls.  The two runs fail
in the same way or both succeed, and then the analysis and the summary are the same and the records
differ in nothing but the group. -/
theorem Suite.regrouping_invisible {σ ω : Type} {suite suite' : Suite} (h : suite.Regroups suite')
    (backend : Backend σ) (w : Writer ω) (s : σ) (t : ω) :
    let run := suite.run backend.recording (Sink.report .text w) (s, []) t
    let run' := suite'.run backend.recording (Sink.report .text w) (s, []) t
    run'.sink = run.sink ∧ run'.backend = run.backend ∧
    (∀ failure, run'.result = .error failure ↔ run.result = .error failure) ∧
    ∀ records, run.result = .ok records → ∃ records', run'.result = .ok records' ∧
      analyze records' = analyze records ∧ summarize records' = summarize records ∧
      List.Forall₂ (fun r r' => r' = { r with group := r'.group }) records records' := by
  intro run run'
  have hignores := Sink.ignoresGroups_report w
  have hruns : run'.map (List.map Record.ungrouped) = run.map (List.map Record.ungrouped) := by
    rw [Suite.run_map_ungrouped hignores, Suite.run_map_ungrouped hignores, h.plan_eq]
  have hresult : run'.result.map (List.map Record.ungrouped)
      = run.result.map (List.map Record.ungrouped) := congrArg Outcome.result hruns
  have hsink := congrArg Outcome.sink hruns
  have hbackend := congrArg Outcome.backend hruns
  refine ⟨hsink, hbackend, ?_, ?_⟩
  · have herror : ∀ (result : Except Failure (List Record)) (failure : Failure),
        result.map (List.map Record.ungrouped) = .error failure ↔ result = .error failure := by
      intro result failure
      cases result <;> simp [Except.map]
    intro failure
    rw [← herror run'.result, hresult, herror]
  · intro records hrecords
    rcases hr' : run'.result with failure | records' <;> rw [hr', hrecords] at hresult
    · cases hresult
    · have hmap : records'.map Record.ungrouped = records.map Record.ungrouped :=
        Except.ok.inj hresult
      refine ⟨records', rfl, ?_, ?_, Record.forall₂_of_map_ungrouped hmap⟩
      · rw [← analyze_map_ungrouped records', hmap, analyze_map_ungrouped]
      · rw [← summarize_map_ungrouped records', hmap, summarize_map_ungrouped]

/-- A suite with a titled group and an untitled one. -/
def Suite.twoGroups : Suite :=
  ⟨[⟨some "numbers:", [.compare .factorial "5!" [5]]⟩,
    ⟨none, [.observe .even "even(4) " [4] .bare]⟩]⟩

/-- The same probes in one group. -/
def Suite.oneGroup : Suite :=
  ⟨[⟨some "numbers:", [.compare .factorial "5!" [5], .observe .even "even(4) " [4] .bare]⟩]⟩

/-- The second record changes its group, and the report stays as it is. -/
theorem Suite.regrouping_invisible_oneGroup :
    Suite.twoGroups.Regroups Suite.oneGroup ∧
    ∃ records records' : List Record,
      (Suite.twoGroups.run (Backend.scripted "scripted" [120, 1]).recording
        (Sink.report .text (Writer.bounded ⟨none, .refuse, false⟩)) (0, []) {}).result
          = .ok records ∧
      (Suite.oneGroup.run (Backend.scripted "scripted" [120, 1]).recording
        (Sink.report .text (Writer.bounded ⟨none, .refuse, false⟩)) (0, []) {}).result
          = .ok records' ∧
      records'.map Record.group = [some "numbers", some "numbers"] ∧
      records.map Record.group = [some "numbers", none] ∧
      summarize records' = summarize records ∧
      (Suite.oneGroup.run (Backend.scripted "scripted" [120, 1]).recording
        (Sink.report .text (Writer.bounded ⟨none, .refuse, false⟩)) (0, []) {}).sink
          = (Suite.twoGroups.run (Backend.scripted "scripted" [120, 1]).recording
            (Sink.report .text (Writer.bounded ⟨none, .refuse, false⟩)) (0, []) {}).sink := by
  have hregroups : Suite.twoGroups.Regroups Suite.oneGroup := .merge [] [] (some "numbers:") _ _
  have hrun : (Suite.twoGroups.run (Backend.scripted "scripted" [120, 1]).recording
      (Sink.report .text (Writer.bounded ⟨none, .refuse, false⟩)) (0, []) {}).result = .ok [
        ⟨some "numbers", "factorial", "5!", some [5], some 120, some [5], 120, .comparison⟩,
        ⟨none, "even", "even(4) ", none, none, some [4], 1, .bare⟩] := by
    decide +kernel
  have hrun' : (Suite.oneGroup.run (Backend.scripted "scripted" [120, 1]).recording
      (Sink.report .text (Writer.bounded ⟨none, .refuse, false⟩)) (0, []) {}).result = .ok [
        ⟨some "numbers", "factorial", "5!", some [5], some 120, some [5], 120, .comparison⟩,
        ⟨some "numbers", "even", "even(4) ", none, none, some [4], 1, .bare⟩] := by
    decide +kernel
  obtain ⟨hsink, -, -, hsuccess⟩ := Suite.regrouping_invisible hregroups
    (Backend.scripted "scripted" [120, 1]) (Writer.bounded ⟨none, .refuse, false⟩) 0 {}
  obtain ⟨records', hrecords', -, hsummary, -⟩ := hsuccess _ hrun
  obtain rfl := Except.ok.inj (hrun'.symm.trans hrecords')
  exact ⟨hregroups, _, _, hrun, hrun', rfl, rfl, hsummary, hsink⟩

end Conformance
