/-
# Reports that are cut off

A report is written while the run goes on, so a writer that has reached its limit ends the run.
This file compares a run into such a writer with the same run into a writer without a limit.  Up to
the byte at which the limit is reached the two runs are in step: the backends are in the same state
and the writers hold the same bytes.  From then on the limited run is over, with the bytes it could
write, and nothing it did differs from the beginning of the other run.

The main result is `Suite.run_limited`.
-/
import Conformance.Proofs.FirstFailure
import Conformance.Proofs.Writing

namespace Conformance

open Writer (Held)

variable {σ ω ω' : Type}

/-- A run into a writer without a limit, and the same run into one with a limit, which neither has
reached. -/
structure Progress.InStep (view : ω → Held) (view' : ω' → Held) (n : ℕ) (b : Progress σ ω)
    (c : Progress σ ω') : Prop where
  backend : c.backend = b.backend
  calls : c.calls = b.calls
  records : c.records = b.records
  held : view' c.sink = view b.sink
  fits : (view b.sink).bytes.length ≤ n

/-- The two runs end in the same way. -/
structure Progress.SameEnd (view : ω → Held) (view' : ω' → Held) (n : ℕ)
    (r : Option Failure × Progress σ ω) (r' : Option Failure × Progress σ ω') : Prop where
  failure : r'.1 = r.1
  inStep : InStep view view' n r.2 r'.2

/-- The limited run ends at its limit, after `flushes` flushes, while the other goes on. -/
structure Progress.CutOff (view : ω → Held) (view' : ω' → Held) (n flushes : ℕ)
    (r : Option Failure × Progress σ ω) (r' : Option Failure × Progress σ ω') : Prop where
  failure : ∃ cause, r'.1 = some (.output cause)
  exceeds : n < (view r.2.sink).bytes.length
  bytes : (view' r'.2.sink).bytes = (view r.2.sink).bytes.take n
  flushes : (view' r'.2.sink).flushes = flushes
  calls : r'.2.calls <+: r.2.calls

/-- What can become of the two runs: they end in the same way, or the limit comes first. -/
inductive Progress.Parallel (view : ω → Held) (view' : ω' → Held) (n flushes : ℕ)
    (r : Option Failure × Progress σ ω) (r' : Option Failure × Progress σ ω') : Prop
  | same (h : SameEnd view view' n r r')
  | cut (h : CutOff view view' n flushes r r')

section Runs

variable {w : Writer ω} {w' : Writer ω'} {view : ω → Held} {view' : ω' → Held} {n : ℕ}
  {flushed : Held → Except String Unit} {b : Progress σ ω} {c : Progress σ ω'}

/-! ## The run without a limit -/

/-- What a writer without a limit holds after an event. -/
lemma Progress.view_offer (hw : w.Keeps view none flushed) (format : Format) (event : Event)
    (b : Progress σ ω) :
    (view (b.offer (Sink.report format w) event).2.sink).bytes
        = (view b.sink).bytes ++ event.bytes format ∧
      (event ≠ .finish →
        (view (b.offer (Sink.report format w) event).2.sink).flushes = (view b.sink).flushes) :=
  (Sink.accept_report_of_unlimited format hw event b.sink).2

/-- A step adds to the bytes and to the calls, and takes nothing away. -/
lemma Step.extends_attempt (hw : w.Keeps view none flushed) (backend : Backend σ)
    (format : Format) (step : Step) (b : Progress σ ω) :
    (view b.sink).bytes
        <+: (view (step.attempt backend (Sink.report format w) b).2.sink).bytes ∧
      b.calls <+: (step.attempt backend (Sink.report format w) b).2.calls := by
  obtain ⟨event, hevent, hs⟩ | ⟨rfl, hs⟩ | ⟨under, p, failure, rfl, hs⟩ |
    ⟨under, p, value, rfl, hc, hs⟩ | ⟨under, p, args, hlen, rfl, hc, hs⟩ :=
      attempt_cases backend (Sink.report format w) step b
  · rw [hs, (Progress.view_offer hw format event b).1]
    exact ⟨List.prefix_append _ _, List.prefix_rfl⟩
  · rw [hs]
    exact ⟨List.prefix_rfl, List.prefix_rfl⟩
  · rw [hs]
    exact ⟨List.prefix_rfl, List.prefix_rfl⟩
  · rw [hs]
    exact ⟨List.prefix_rfl, List.prefix_rfl⟩
  · rw [hs]
    exact ⟨List.prefix_rfl, List.prefix_append _ _⟩

/-- The rest of a run adds to what its first step has left. -/
lemma Step.extends_performAll_cons (hw : w.Keeps view none flushed) (backend : Backend σ)
    (format : Format) (step : Step) (steps : List Step) (b : Progress σ ω) :
    (view (step.attempt backend (Sink.report format w) b).2.sink).bytes
        <+: (view (performAll backend (Sink.report format w) (step :: steps) b).2.sink).bytes ∧
      (step.attempt backend (Sink.report format w) b).2.calls
        <+: (performAll backend (Sink.report format w) (step :: steps) b).2.calls := by
  rcases hs : step.attempt backend (Sink.report format w) b with ⟨_ | failure, a⟩
  · rw [performAll_cons_of_none hs]
    refine performAll_invariant
      (P := fun x => (view a.sink).bytes <+: (view x.sink).bytes ∧ a.calls <+: x.calls) ?_
      ⟨List.prefix_rfl, List.prefix_rfl⟩
    rintro step' x ⟨hbytes, hcalls⟩
    obtain ⟨hbytes', hcalls'⟩ := extends_attempt hw backend format step' x
    exact ⟨hbytes.trans hbytes', hcalls.trans hcalls'⟩
  · rw [performAll_cons_of_some hs]
    exact ⟨List.prefix_rfl, List.prefix_rfl⟩

/-- Only the last step of a plan flushes. -/
lemma Step.flushes_attempt (hw : w.Keeps view none flushed) (backend : Backend σ)
    (format : Format) {step : Step} (hstep : step ≠ finish) (b : Progress σ ω) :
    (view (step.attempt backend (Sink.report format w) b).2.sink).flushes
      = (view b.sink).flushes := by
  obtain ⟨event, hevent, hs⟩ | ⟨rfl, hs⟩ | ⟨under, p, failure, rfl, hs⟩ |
    ⟨under, p, value, rfl, hc, hs⟩ | ⟨under, p, args, hlen, rfl, hc, hs⟩ :=
      attempt_cases backend (Sink.report format w) step b
  · rw [hs]
    exact (Progress.view_offer hw format event b).2 (Step.event?_ne_finish hstep hevent)
  all_goals exact congrArg (fun r => (view r.2.sink).flushes) hs

/-! ## The two runs side by side -/

namespace Progress

/-- The end of the report adds no bytes, so that it cannot reach a limit: both writers are
flushed. -/
lemma InStep.offer_finish (hw : w.Keeps view none flushed) (hw' : w'.Keeps view' (some n) flushed)
    (h : InStep view view' n b c) (format : Format) :
    SameEnd view view' n (b.offer (Sink.report format w) .finish)
      (c.offer (Sink.report format w') .finish) := by
  obtain ⟨t, haccept, hview⟩ := Sink.accept_report_finish format hw b.sink
  obtain ⟨t', haccept', hview'⟩ := Sink.accept_report_finish format hw' c.sink
  rw [Progress.offer, Progress.offer, haccept, haccept', h.held]
  refine ⟨rfl, h.backend, h.calls, h.records, ?_, ?_⟩
  · rw [hview, hview', h.held]
  · rw [hview]
    exact h.fits

/-- Both runs put the same event to their sinks: either the limit is not reached, or it is reached
in the middle of the event and the limited run ends there. -/
lemma InStep.offer (hw : w.Keeps view none flushed) (hw' : w'.Keeps view' (some n) flushed)
    (h : InStep view view' n b c) (format : Format) (event : Event) :
    Parallel view view' n (view b.sink).flushes (b.offer (Sink.report format w) event)
      (c.offer (Sink.report format w') event) := by
  by_cases hevent : event = .finish
  · subst hevent
    exact .same (h.offer_finish hw hw' format)
  · obtain ⟨t, haccept, hview⟩ :=
      Sink.accept_report_of_fits format hw hevent b.sink (fits_none _)
    by_cases hroom : (view b.sink).bytes.length + (event.bytes format).length ≤ n
    · obtain ⟨t', haccept', hview'⟩ := Sink.accept_report_of_fits format hw' hevent c.sink
        (by rw [h.held]; exact fits_some.mpr hroom)
      apply Parallel.same
      rw [Progress.offer, Progress.offer, haccept, haccept']
      refine ⟨rfl, h.backend, h.calls, h.records, ?_, ?_⟩
      · rw [hview, hview', h.held]
      · rw [hview, Held.bytes_add, List.length_append]
        exact hroom
    · have hheld : (view' c.sink).bytes.length ≤ n := by
        rw [h.held]
        exact h.fits
      have hover : n < (view' c.sink).bytes.length + (event.bytes format).length := by
        rw [h.held]
        omega
      obtain ⟨cause, t', haccept', hview'⟩ :=
        Sink.accept_report_of_exceeds format hw' c.sink hheld hover
      apply Parallel.cut
      rw [Progress.offer, Progress.offer, haccept, haccept']
      refine ⟨⟨cause, rfl⟩, ?_, ?_, ?_, ?_⟩
      · rw [hview, Held.bytes_add, List.length_append]
        omega
      · rw [hview, hview', h.held, Held.bytes_add, Held.bytes_add, List.take_append,
          List.take_of_length_le h.fits]
      · rw [hview', h.held, Held.flushes_add]
      · exact h.calls ▸ List.prefix_rfl

end Progress

/-- Both runs perform the same step. -/
lemma Step.attempt_inStep (hw : w.Keeps view none flushed) (hw' : w'.Keeps view' (some n) flushed)
    (backend : Backend σ) (format : Format) (h : b.InStep view view' n c) (step : Step) :
    Progress.Parallel view view' n (view b.sink).flushes
      (step.attempt backend (Sink.report format w) b)
      (step.attempt backend (Sink.report format w') c) := by
  cases step with
  | heading text => exact h.offer hw hw' format (.heading text)
  | finish => exact h.offer hw hw' format .finish
  | record =>
    rw [attempt, attempt, h.records]
    rcases b.records.getLast? with _ | r
    · exact .same ⟨rfl, h⟩
    · exact h.offer hw hw' format (.record r)
  | probe under p =>
    -- the sink has no part in it, and the backends are in the same state
    apply Progress.Parallel.same
    rcases p.cases with
      ⟨failure, hp⟩ | ⟨value, hp, hc⟩ | ⟨args, hlen, hp, hc⟩ | ⟨args, hlen, hp, hc⟩
    · rw [attempt_of_referenceFailure _ _ _ _ hp, attempt_of_referenceFailure _ _ _ _ hp]
      exact ⟨rfl, h⟩
    · rw [attempt_of_literal _ _ _ _ hp hc, attempt_of_literal _ _ _ _ hp hc]
      refine ⟨rfl, h.backend, h.calls, ?_, h.held, h.fits⟩
      rw [Progress.noted, Progress.noted, h.records]
    · rw [attempt_of_call _ _ _ _ hp hc hlen, attempt_of_call _ _ _ _ hp hc hlen, h.backend]
      refine ⟨rfl, rfl, ?_, ?_, h.held, h.fits⟩
      · rw [Progress.answered, Progress.answered, h.calls]
      · rw [Progress.answered, Progress.answered, h.records]
    · rw [attempt_of_call_refused _ _ _ _ hp hc hlen, attempt_of_call_refused _ _ _ _ hp hc hlen]
      exact ⟨rfl, h⟩

/-- Both runs perform the same steps. -/
lemma Step.performAll_inStep (hw : w.Keeps view none flushed)
    (hw' : w'.Keeps view' (some n) flushed) (backend : Backend σ) (format : Format)
    {steps : List Step} (hsteps : finish ∉ steps) (h : b.InStep view view' n c) :
    Progress.Parallel view view' n (view b.sink).flushes
      (performAll backend (Sink.report format w) steps b)
      (performAll backend (Sink.report format w') steps c) := by
  induction steps generalizing b c with
  | nil => exact .same ⟨rfl, h⟩
  | cons step steps ih =>
    simp only [List.mem_cons, not_or] at hsteps
    obtain ⟨hstep, hsteps⟩ := hsteps
    have hflushes := flushes_attempt hw backend format (Ne.symm hstep) b
    obtain ⟨hbytes, hcalls⟩ := extends_performAll_cons hw backend format step steps b
    rcases attempt_inStep hw hw' backend format h step with hsame | hcut
    · obtain ⟨hfailure, hinStep⟩ := hsame
      rcases hs : step.attempt backend (Sink.report format w) b with ⟨_ | failure, a⟩ <;>
        rcases hs' : step.attempt backend (Sink.report format w') c with ⟨failed, a'⟩ <;>
        rw [hs, hs'] at hfailure hinStep <;> obtain rfl := hfailure
      · rw [performAll_cons_of_none hs, performAll_cons_of_none hs']
        rw [hs] at hflushes
        rw [← hflushes]
        exact ih hsteps hinStep
      · rw [performAll_cons_of_some hs, performAll_cons_of_some hs']
        exact .same ⟨rfl, hinStep⟩
    · -- the limited run is over, and the other one only adds to what it has
      apply Progress.Parallel.cut
      obtain ⟨cause, hcause⟩ := hcut.failure
      rcases hs' : step.attempt backend (Sink.report format w') c with ⟨failed, a'⟩
      rw [hs'] at hcause hcut
      subst hcause
      rw [performAll_cons_of_some hs']
      obtain ⟨more, hmore⟩ := hbytes
      refine ⟨⟨cause, rfl⟩, ?_, ?_, hcut.flushes, hcut.calls.trans hcalls⟩
      · rw [← hmore, List.length_append]
        exact Nat.lt_of_lt_of_le hcut.exceeds (Nat.le_add_right _ _)
      · rw [hcut.bytes, ← hmore, List.take_append_of_le_length (Nat.le_of_lt hcut.exceeds)]

/-- Where a run with a recording backend ends. -/
lemma Progress.outcome_withCalls {τ : Type} (failed : Option Failure) (a : Progress σ τ) :
    (outcome (Prod.map id withCalls (failed, a))).backend = (a.backend, a.calls) ∧
      (outcome (Prod.map id withCalls (failed, a))).sink = a.sink := by
  cases failed <;> exact ⟨rfl, rfl⟩

/-- Both runs perform the plan of a suite. -/
lemma Suite.performAll_plan_inStep (hw : w.Keeps view none flushed)
    (hw' : w'.Keeps view' (some n) flushed) (backend : Backend σ) (format : Format) (suite : Suite)
    (h : b.InStep view view' n c) :
    Progress.Parallel view view' n (view b.sink).flushes
      (Step.performAll backend (Sink.report format w) suite.plan b)
      (Step.performAll backend (Sink.report format w') suite.plan c) := by
  rw [Suite.plan]
  rcases hbody : Step.performAll backend (Sink.report format w) suite.body b with ⟨failed, a⟩
  rcases hbody' : Step.performAll backend (Sink.report format w') suite.body c with ⟨failed', a'⟩
  have hruns := Step.performAll_inStep hw hw' backend format suite.finish_notMem_body h
  rw [hbody, hbody'] at hruns
  rcases hruns with ⟨hfailure, hinStep⟩ | hcut
  · obtain rfl : failed' = failed := hfailure
    apply Progress.Parallel.same
    rcases failed' with _ | failure
    · rw [Step.performAll_append_of_none _ hbody, Step.performAll_append_of_none _ hbody',
        Step.performAll_singleton, Step.performAll_singleton]
      exact hinStep.offer_finish hw hw' format
    · rw [Step.performAll_append_of_some _ hbody, Step.performAll_append_of_some _ hbody']
      exact ⟨rfl, hinStep⟩
  · apply Progress.Parallel.cut
    obtain ⟨cause, hcause⟩ := hcut.failure
    obtain rfl : failed' = some (.output cause) := hcause
    rw [Step.performAll_append_of_some _ hbody']
    rcases failed with _ | failure
    · -- the end of the report adds neither bytes nor calls to the run without a limit
      obtain ⟨hbytes, -⟩ := Progress.view_offer hw format .finish a
      rw [Event.bytes_finish, List.append_nil] at hbytes
      rw [Step.performAll_append_of_none _ hbody, Step.performAll_singleton]
      refine ⟨⟨cause, rfl⟩, ?_, ?_, hcut.flushes, hcut.calls⟩
      · exact Nat.lt_of_lt_of_eq hcut.exceeds (congrArg List.length hbytes.symm)
      · exact hcut.bytes.trans (congrArg (List.take n) hbytes.symm)
    · rw [Step.performAll_append_of_some _ hbody]
      exact hcut

/-- **A report that is cut off is the beginning of the whole report.**  Let a suite be run twice
with the same backend and in the same format, into a writer without a limit and into one that takes
no more than `n` bytes.  If the report is no longer than that, the two runs cannot be told apart:
the bytes, the flushes, the result and the calls are the same.  If it is longer, the limited writer
holds its first `n` bytes and was never flushed, the run failed at the output, and the backend saw
the first of the calls it sees in the other run. -/
theorem Suite.run_limited (hw : w.Keeps view none flushed) (hw' : w'.Keeps view' (some n) flushed)
    (backend : Backend σ) (format : Format) (suite : Suite) (s : σ) {t : ω} {t' : ω'}
    (ht : view t = {}) (ht' : view' t' = {})
    {whole : Outcome (σ × List Call) ω (List Record)}
    {cut : Outcome (σ × List Call) ω' (List Record)}
    (hwhole : suite.run backend.recording (Sink.report format w) (s, []) t = whole)
    (hcut : suite.run backend.recording (Sink.report format w') (s, []) t' = cut) :
    ((view whole.sink).bytes.length ≤ n →
      view' cut.sink = view whole.sink ∧ cut.result = whole.result ∧
        cut.backend = whole.backend) ∧
    (n < (view whole.sink).bytes.length →
      (view' cut.sink).bytes = (view whole.sink).bytes.take n ∧ (view' cut.sink).flushes = 0 ∧
        (∃ cause, cut.result = .error (.output cause)) ∧
        cut.backend.2 <+: whole.backend.2) := by
  subst hwhole hcut
  have hstart : (Progress.start s t).InStep view view' n (Progress.start s t') := by
    refine ⟨rfl, rfl, rfl, ht'.trans ht.symm, ?_⟩
    exact Nat.le_trans (Nat.le_of_eq (congrArg (fun held => held.bytes.length) ht)) (Nat.zero_le n)
  have hflushes : (view (Progress.start s t).sink).flushes = 0 := congrArg Held.flushes ht
  have hruns := suite.performAll_plan_inStep hw hw' backend format hstart
  rw [Suite.run_recording_backend, Suite.run_recording_backend]
  rcases hrun : Step.performAll backend (Sink.report format w) suite.plan (.start s t)
    with ⟨failed, a⟩
  rcases hrun' : Step.performAll backend (Sink.report format w') suite.plan (.start s t')
    with ⟨failed', a'⟩
  rw [hrun, hrun', hflushes] at hruns
  obtain ⟨hbackend, hsink⟩ := Progress.outcome_withCalls failed a
  obtain ⟨hbackend', hsink'⟩ := Progress.outcome_withCalls failed' a'
  rw [hbackend, hsink, hbackend', hsink']
  rcases hruns with ⟨hfailure, hinStep⟩ | hcut
  · refine ⟨fun _ => ⟨hinStep.held, ?_, ?_⟩, fun hover => ?_⟩
    · obtain rfl : failed' = failed := hfailure
      have hrecords : a'.records = a.records := hinStep.records
      cases failed' with
      | none => exact congrArg Except.ok hrecords
      | some failure => rfl
    · rw [hinStep.backend, hinStep.calls]
    · exact absurd hinStep.fits (Nat.not_le.mpr hover)
  · refine ⟨fun hfits => ?_, fun _ => ⟨hcut.bytes, hcut.flushes, ?_, hcut.calls⟩⟩
    · exact absurd hcut.exceeds (Nat.not_lt.mpr hfits)
    · obtain ⟨cause, hcause⟩ := hcut.failure
      obtain rfl : failed' = some (.output cause) := hcause
      exact ⟨cause, rfl⟩

end Runs

/-- A suite with a label that has to be escaped. -/
def Suite.quotedLabel : Suite :=
  ⟨[⟨none, [.compare .factorial "the \"fifth\"" [5], .compare .greater "2 > 1" [2, 1]]⟩]⟩

/-- The limit is reached between the two characters of an escape, after one of two calls. -/
theorem Suite.run_limited_quotedLabel :
    ∃ whole cut : Outcome (ℕ × List Call) Held (List Record),
      Suite.quotedLabel.run (Backend.scripted "scripted" [120, 1]).recording
        (Sink.report .json (Writer.bounded ⟨none, .refuse, false⟩)) (0, []) {} = whole ∧
      Suite.quotedLabel.run (Backend.scripted "scripted" [120, 1]).recording
        (Sink.report .json (Writer.bounded ⟨some 38, .takeNone, false⟩)) (0, []) {} = cut ∧
      38 < whole.sink.bytes.length ∧
      cut.sink.bytes = whole.sink.bytes.take 38 ∧ cut.sink.flushes = 0 ∧
      (∃ cause, cut.result = .error (.output cause)) ∧
      cut.backend.2 <+: whole.backend.2 ∧ cut.backend.2 = [⟨.factorial, [5]⟩] := by
  have hover : 38 < (Suite.quotedLabel.run (Backend.scripted "scripted" [120, 1]).recording
      (Sink.report .json (Writer.bounded ⟨none, .refuse, false⟩))
      (0, []) {}).sink.bytes.length := by
    decide +kernel
  have hcalls : (Suite.quotedLabel.run (Backend.scripted "scripted" [120, 1]).recording
      (Sink.report .json (Writer.bounded ⟨some 38, .takeNone, false⟩)) (0, []) {}).backend.2
        = [⟨.factorial, [5]⟩] := by
    decide +kernel
  obtain ⟨hbytes, hflushes, hresult, hprefix⟩ :=
    (Suite.run_limited (Writer.keeps_bounded ⟨none, .refuse, false⟩)
      (Writer.keeps_bounded ⟨some 38, .takeNone, false⟩) (Backend.scripted "scripted" [120, 1])
      .json Suite.quotedLabel 0 rfl rfl rfl rfl).2 hover
  exact ⟨_, _, rfl, rfl, hover, hbytes, hflushes, hresult, hprefix, hcalls⟩

end Conformance
