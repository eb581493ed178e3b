/-
# The first failure of a run

A step of a plan can fail for one of two reasons: the sink does not take an event, or an argument
list of a probe is not as long as its operation's arity.  `Step.Fails` says this without performing
anything, and `Step.attempt_fst_eq_some_iff` says that nothing else makes a step fail.

The main result, `Suite.run_stops_at_first_failure`, describes every run by its plan: all steps up
to the first failing one are performed, that step's failure is the result, and nothing happens after
it.
-/
import Conformance.Proofs.Plan

namespace Conformance

variable {σ τ : Type}

namespace Step

/-- Why a step fails: the sink refuses the event that is put to it, or a probe has an argument list
of the wrong length.  The reference arguments come first, also where there is no reference. -/
def Fails (sink : Sink τ) (b : Progress σ τ) (failure : Failure) : Step → Prop
  | heading text => (sink.accept (.heading text) b.sink).1 = .error failure
  | probe _ p =>
    (∃ args, p.referenceArgs = some args ∧ args.length ≠ p.operation.arity ∧
      failure = .arity p.operation.symbol p.operation.arity args.length) ∨
    ((∀ args, p.referenceArgs = some args → args.length = p.operation.arity) ∧
      ∃ args, p.compiled = .call args ∧ args.length ≠ p.operation.arity ∧
        failure = .arity p.operation.symbol p.operation.arity args.length)
  | record =>
    ∃ r, b.records.getLast? = some r ∧ (sink.accept (.record r) b.sink).1 = .error failure
  | finish => (sink.accept .finish b.sink).1 = .error failure

/-- The call that a step makes, if it makes one. -/
def call? : Step → Option Call
  | probe _ p => p.call?
  | _ => none

lemma failure?_eq_some_iff {α : Type} {x : Except Failure α} {failure : Failure} :
    failure? x = some failure ↔ x = .error failure := by
  cases x <;> simp [failure?]

variable (backend : Backend σ) (sink : Sink τ)

/-- Nothing else makes a step fail. -/
lemma attempt_fst_eq_some_iff (step : Step) (b : Progress σ τ) (failure : Failure) :
    (step.attempt backend sink b).1 = some failure ↔ step.Fails sink b failure := by
  cases step with
  | heading text => exact failure?_eq_some_iff
  | finish => exact failure?_eq_some_iff
  | record =>
    rw [attempt, Fails]
    rcases b.records.getLast? with _ | r
    · simp
    · simp [Progress.offer, failure?_eq_some_iff]
  | probe under p =>
    -- `Fails` spells out the lengths; folded up, they are `referenceFailure?`
    rw [Fails, ← Probe.referenceFailure?_eq_none_iff]
    change _ ↔ (∃ args, p.referenceArgs = some args ∧ args.length ≠ p.operation.arity ∧
      failure = p.operation.arityFailure args) ∨ _
    rw [← Probe.referenceFailure?_eq_some_iff]
    rcases p.cases with
      ⟨failure', hp⟩ | ⟨value, hp, hc⟩ | ⟨args, hlen, hp, hc⟩ | ⟨args, hlen, hp, hc⟩
    · rw [attempt_of_referenceFailure backend sink under b hp]
      simp [hp]
    · rw [attempt_of_literal backend sink under b hp hc]
      simp [hp, hc]
    · rw [attempt_of_call backend sink under b hp hc hlen]
      simp [hp, hc, hlen]
    · rw [attempt_of_call_refused backend sink under b hp hc hlen]
      simp [hp, hc, hlen, Operation.arityFailure, eq_comm]

variable {backend sink}

/-- A probe that fails is not asked: nothing happens. -/
lemma attempt_probe_of_some {under : Option String} {p : Probe} {b a : Progress σ τ}
    {failure : Failure} (h : (probe under p).attempt backend sink b = (some failure, a)) :
    a = b := by
  obtain ⟨event, hevent, -⟩ | ⟨hstep, -⟩ | ⟨_, _, failure', -, ha⟩ | ⟨_, _, value, -, -, ha⟩ |
    ⟨_, _, args, hlen, -, -, ha⟩ := attempt_cases backend sink (probe under p) b
  · cases hevent
  · cases hstep
  · rw [ha] at h
    exact (congrArg Prod.snd h).symm
  · rw [ha] at h
    cases congrArg Prod.fst h
  · rw [ha] at h
    cases congrArg Prod.fst h

/-- The calls after a step that succeeds. -/
lemma calls_of_attempt_none {step : Step} {b a : Progress σ τ}
    (h : step.attempt backend sink b = (none, a)) : a.calls = b.calls ++ step.call?.toList := by
  have ha : a = (step.attempt backend sink b).2 := (congrArg Prod.snd h).symm
  obtain ⟨event, hevent, hs⟩ | ⟨rfl, hs⟩ | ⟨under, p, failure, rfl, hs⟩ |
    ⟨under, p, value, rfl, hc, hs⟩ | ⟨under, p, args, hlen, rfl, hc, hs⟩ :=
      attempt_cases backend sink step b
  · have hcall : step.call? = none := by
      cases step with
      | probe under p => cases hevent
      | heading _ | record | finish => rfl
    rw [ha, hs, hcall]
    simp [Progress.offer]
  · rw [ha, hs]
    simp [call?]
  · rw [hs] at h
    cases congrArg Prod.fst h
  · rw [ha, hs]
    simp [call?, Probe.call?, hc, Progress.noted]
  · rw [ha, hs]
    simp [call?, Probe.call?, hc, Progress.answered]

/-- The calls after a step that fails. -/
lemma calls_of_attempt_some {step : Step} {b a : Progress σ τ} {failure : Failure}
    (h : step.attempt backend sink b = (some failure, a)) : a.calls = b.calls := by
  have ha : a = (step.attempt backend sink b).2 := (congrArg Prod.snd h).symm
  obtain ⟨event, hevent, hs⟩ | ⟨rfl, hs⟩ | ⟨under, p, failure, rfl, hs⟩ |
    ⟨under, p, value, rfl, hc, hs⟩ | ⟨under, p, args, hlen, rfl, hc, hs⟩ :=
      attempt_cases backend sink step b
  · rw [ha, hs, Progress.offer]
  · rw [ha, hs]
  · rw [ha, hs]
  · rw [hs] at h
    cases congrArg Prod.fst h
  · rw [hs] at h
    cases congrArg Prod.fst h

/-- The calls after a list of steps that all succeed. -/
lemma calls_of_performAll_none {steps : List Step} {b a : Progress σ τ}
    (h : performAll backend sink steps b = (none, a)) :
    a.calls = b.calls ++ steps.filterMap call? := by
  induction steps generalizing b with
  | nil =>
    obtain rfl : b = a := congrArg Prod.snd h
    simp
  | cons step steps ih =>
    rcases hs : step.attempt backend sink b with ⟨_ | failure, m⟩
    · rw [performAll_cons_of_none hs] at h
      rw [ih h, calls_of_attempt_none hs]
      rcases hc : step.call? with _ | c <;> simp [hc]
    · rw [performAll_cons_of_some hs] at h
      cases congrArg Prod.fst h

lemma event?_ne_finish {step : Step} {b : Progress σ τ} {event : Event} (h : step ≠ finish)
    (hevent : step.event? b = some event) : event ≠ .finish := by
  rintro rfl
  cases step with
  | heading text => cases hevent
  | probe under p => cases hevent
  | record =>
    obtain ⟨r, -, hr⟩ := Option.map_eq_some_iff.mp hevent
    cases hr
  | finish => exact h rfl

variable (backend sink) in
/-- Only the last step of a plan puts the end of the report to the sink. -/
lemma count_finish_of_attempt {step : Step} {b : Progress σ τ} (h : step ≠ finish) :
    (step.attempt backend sink b).2.events.count .finish = b.events.count .finish := by
  obtain ⟨event, hevent, hs⟩ | ⟨rfl, hs⟩ | ⟨under, p, failure, rfl, hs⟩ |
    ⟨under, p, value, rfl, hc, hs⟩ | ⟨under, p, args, hlen, rfl, hc, hs⟩ :=
      attempt_cases backend sink step b
  · have hne := event?_ne_finish h hevent
    rw [hs, Progress.offer, List.count_append, List.count_singleton, beq_false_of_ne hne]
    rfl
  all_goals exact congrArg (fun r => List.count .finish r.2.events) hs

variable (backend sink) in
lemma count_finish_of_performAll {steps : List Step} {b : Progress σ τ}
    (h : finish ∉ steps) :
    (performAll backend sink steps b).2.events.count .finish = b.events.count .finish := by
  induction steps generalizing b with
  | nil => rfl
  | cons step steps ih =>
    simp only [List.mem_cons, not_or] at h
    obtain ⟨hstep, hsteps⟩ := h
    have hcount := count_finish_of_attempt backend sink (b := b) (Ne.symm hstep)
    rcases hs : step.attempt backend sink b with ⟨_ | failure, m⟩ <;> rw [hs] at hcount
    · rw [performAll_cons_of_none hs, ih hsteps, hcount]
    · rw [performAll_cons_of_some hs, hcount]

/-- A list of steps that is not performed to its end has a first step that fails. -/
lemma exists_first_failure {steps : List Step} {b a : Progress σ τ} {failure : Failure}
    (h : performAll backend sink steps b = (some failure, a)) :
    ∃ done step rest m, steps = done ++ step :: rest ∧
      performAll backend sink done b = (none, m) ∧
      step.attempt backend sink m = (some failure, a) := by
  induction steps generalizing b with
  | nil => cases congrArg Prod.fst h
  | cons step steps ih =>
    rcases hs : step.attempt backend sink b with ⟨_ | failure', m⟩
    · -- this step goes through, so the first failure is further on
      rw [performAll_cons_of_none hs] at h
      obtain ⟨done, last, rest, m', rfl, hdone, hlast⟩ := ih h
      refine ⟨step :: done, last, rest, m', rfl, ?_, hlast⟩
      rw [performAll_cons_of_none hs, hdone]
    · rw [performAll_cons_of_some hs] at h
      exact ⟨[], step, steps, b, rfl, rfl, hs.trans h⟩

end Step

lemma Suite.finish_notMem_body (suite : Suite) : Step.finish ∉ suite.body := by
  intro h
  obtain ⟨g, -, hg⟩ := List.mem_flatMap.mp h
  simp only [ProbeGroup.plan, List.mem_append, Option.mem_toList, Option.map_eq_some_iff,
    List.mem_flatMap, Probe.plan] at hg
  obtain ⟨text, -, htext⟩ | ⟨p, -, hp⟩ := hg
  · cases htext
  · simp at hp

/-- The end of the report is put to the sink at most once, after everything else. -/
lemma Suite.finish_events (backend : Backend σ) (sink : Sink τ) (suite : Suite) (s : σ) (t : τ) :
    (Step.performAll backend sink suite.plan (.start s t)).2.events.count .finish ≤ 1 ∧
      (.finish ∈ (Step.performAll backend sink suite.plan (.start s t)).2.events →
        ∃ before : Progress σ τ,
          Step.performAll backend sink suite.body (.start s t) = (none, before)) := by
  have hzero : (Step.performAll backend sink suite.body (.start s t)).2.events.count .finish = 0 :=
    Step.count_finish_of_performAll backend sink suite.finish_notMem_body
  rw [Suite.plan]
  rcases hbody : Step.performAll backend sink suite.body (.start s t) with ⟨_ | failure, m⟩ <;>
    rw [hbody] at hzero
  · have hevents : (Step.finish.attempt backend sink m).2.events = m.events ++ [.finish] := rfl
    rw [Step.performAll_append_of_none _ hbody, Step.performAll_singleton, hevents,
      List.count_append, hzero]
    exact ⟨by simp, fun _ => ⟨m, rfl⟩⟩
  · rw [Step.performAll_append_of_some _ hbody]
    refine ⟨by omega, fun hmem => ?_⟩
    exact absurd (List.count_pos_iff.mpr hmem) (by omega)

/-- **A run stops at its first failure.**  Whatever the suite, the backend and the sink, a run
performs the steps of its plan in order.  Either all of them succeed, and the result is the records;
or the first of them that fails is the last thing that happens, and its failure is the result.  A
probe that fails changes nothing: neither the backend nor the sink is asked.  The end of the report
is put to the sink at most once, and only after all steps before it succeeded. -/
theorem Suite.run_stops_at_first_failure (backend : Backend σ) (sink : Sink τ) (suite : Suite)
    (s : σ) (t : τ) :
    (∀ (step : Step) (b : Progress σ τ) (failure : Failure),
      (step.attempt backend sink b).1 = some failure ↔ step.Fails sink b failure) ∧
    ∃ (result : Except Failure (List Record)) (last : Progress σ τ),
      suite.run backend sink s t = ⟨result, last.backend, last.sink⟩ ∧
      suite.run backend.recording sink.recording (s, []) (t, [])
        = ⟨result, (last.backend, last.calls), (last.sink, last.events)⟩ ∧
      ((Step.performAll backend sink suite.plan (.start s t) = (none, last) ∧
          result = .ok last.records ∧ last.calls = suite.plan.filterMap Step.call?) ∨
        ∃ (done rest : List Step) (step : Step) (before : Progress σ τ) (failure : Failure),
          suite.plan = done ++ step :: rest ∧
          Step.performAll backend sink done (.start s t) = (none, before) ∧
          step.attempt backend sink before = (some failure, last) ∧
          result = .error failure ∧ last.calls = done.filterMap Step.call? ∧
          ∀ under p, step = .probe under p → last = before) ∧
      last.events.count .finish ≤ 1 ∧
      (.finish ∈ last.events → ∃ before : Progress σ τ,
        Step.performAll backend sink suite.body (.start s t) = (none, before)) := by
  refine ⟨Step.attempt_fst_eq_some_iff backend sink, ?_⟩
  rcases hrun : Step.performAll backend sink suite.plan (.start s t) with ⟨failed, last⟩
  refine ⟨failed.elim (.ok last.records) .error, last, ?_, ?_, ?_, ?_⟩
  · rw [Suite.run_eq_performAll, hrun]
    cases failed <;> rfl
  · rw [Suite.run_recording, hrun]
    cases failed <;> rfl
  · rcases failed with _ | failure
    · exact .inl ⟨rfl, rfl, Step.calls_of_performAll_none hrun⟩
    · obtain ⟨done, step, rest, before, hplan, hdone, hstep⟩ := Step.exists_first_failure hrun
      refine .inr ⟨done, rest, step, before, failure, hplan, hdone, hstep, rfl, ?_, ?_⟩
      · rw [Step.calls_of_attempt_some hstep, Step.calls_of_performAll_none hdone]
        rfl
      · rintro under p rfl
        exact Step.attempt_probe_of_some hstep
  · have hlast : (Step.performAll backend sink suite.plan (.start s t)).2 = last :=
      congrArg Prod.snd hrun
    rw [← hlast]
    exact suite.finish_events backend sink s t

end Conformance
