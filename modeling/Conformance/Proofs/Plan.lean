/-
# The plan of a suite

A suite is run by nested loops, and a failure leaves all of them at once.  Its *plan* is the same
work written out flat: for each group its heading, if it has one, then for each probe one step that
asks both sides and one that reports the record, and a last step that ends the report.

`Step.performAll` performs the steps of a plan one after the other up to the first that fails, and
keeps account of the calls made and the events put to the sink.  `Suite.run_eq_performAll` says that
running a suite is performing its plan.  What a run can do is thereby said once, step by step, and
every invariant of a run is an induction over a list.
-/
import Conformance.Run
import Conformance.Proofs.Dispatch

namespace Conformance

variable {σ τ : Type}

/-! ## Steps -/

/-- One step of a plan. -/
inductive Step where
  /-- Put the heading of a group to the sink. -/
  | heading (text : String)
  /-- Ask both sides of a probe that stands under a heading, or under none. -/
  | probe (under : Option String) (p : Probe)
  /-- Put the record of the last probe to the sink. -/
  | record
  /-- End the report. -/
  | finish
  deriving DecidableEq

/-- The steps of one probe. -/
def Probe.plan (heading : Option String) (p : Probe) : List Step := [.probe heading p, .record]

/-- The steps of one group. -/
def ProbeGroup.plan (g : ProbeGroup) : List Step :=
  (g.heading.map Step.heading).toList ++ g.probes.flatMap (Probe.plan g.heading)

/-- The steps of a suite before the last one. -/
def Suite.body (suite : Suite) : List Step := suite.groups.flatMap ProbeGroup.plan

/-- The steps of a suite. -/
def Suite.plan (suite : Suite) : List Step := suite.body ++ [.finish]

/-! ## Performing a step -/

/-- How far a plan was performed: the states of the backend and the sink, and what happened on the
way, in order. -/
structure Progress (σ τ : Type) where
  /-- The state of the backend. -/
  backend : σ
  /-- The state of the sink. -/
  sink : τ
  /-- The calls that reached the backend. -/
  calls : List Call
  /-- The events that were put to the sink, whether it took them or not. -/
  events : List Event
  /-- The records of the probes. -/
  records : List Record

/-- Nothing was performed yet. -/
def Progress.start (s : σ) (t : τ) : Progress σ τ := ⟨s, t, [], [], []⟩

/-- The failure in a result, if there is one. -/
def failure? {α : Type} : Except Failure α → Option Failure
  | .ok _ => none
  | .error failure => some failure

/-- Puts an event to the sink. -/
def Progress.offer (sink : Sink τ) (event : Event) (b : Progress σ τ) :
    Option Failure × Progress σ τ :=
  (failure? (sink.accept event b.sink).1,
    { b with sink := (sink.accept event b.sink).2, events := b.events ++ [event] })

/-- A call reached the backend, and the answer completed a record. -/
def Progress.answered (b : Progress σ τ) (s : σ) (call : Call) (r : Record) : Progress σ τ :=
  { b with backend := s, calls := b.calls ++ [call], records := b.records ++ [r] }

/-- A record was completed without a call. -/
def Progress.noted (b : Progress σ τ) (r : Record) : Progress σ τ :=
  { b with records := b.records ++ [r] }

/-- Performs one step, and says why it failed if it did. -/
def Step.attempt (backend : Backend σ) (sink : Sink τ) :
    Step → Progress σ τ → Option Failure × Progress σ τ
  | heading text, b => b.offer sink (.heading text)
  | probe under p, b =>
    match p.referenceFailure? with
    | some failure => (some failure, b)
    | none =>
      match p.compiled with
      | .literal value => (none, b.noted (p.record under p.referenceValue? value))
      | .call args =>
        if h : args.length = p.operation.arity then
          let (value, s) := backend.call p.operation ⟨args, h⟩ b.backend
          (none, b.answered s ⟨p.operation, args⟩ (p.record under p.referenceValue? value))
        else (some (p.operation.arityFailure args), b)
  | record, b =>
    match b.records.getLast? with
    | none => (none, b)
    | some r => b.offer sink (.record r)
  | finish, b => b.offer sink .finish

/-- Performs steps in order up to the first that fails. -/
def Step.performAll (backend : Backend σ) (sink : Sink τ) :
    List Step → Progress σ τ → Option Failure × Progress σ τ
  | [], b => (none, b)
  | step :: rest, b =>
    match step.attempt backend sink b with
    | (some failure, a) => (some failure, a)
    | (none, a) => performAll backend sink rest a

/-- The outcome of a run that ends where a plan was left. -/
def Progress.outcome (r : Option Failure × Progress σ τ) : Outcome σ τ (List Record) :=
  match r with
  | (some failure, a) => ⟨.error failure, a.backend, a.sink⟩
  | (none, a) => ⟨.ok a.records, a.backend, a.sink⟩

namespace Step

variable {backend : Backend σ} {sink : Sink τ}

@[simp] lemma performAll_nil (b : Progress σ τ) : performAll backend sink [] b = (none, b) := rfl

lemma performAll_cons_of_some {step : Step} {rest : List Step} {b a : Progress σ τ}
    {failure : Failure} (h : step.attempt backend sink b = (some failure, a)) :
    performAll backend sink (step :: rest) b = (some failure, a) := by
  rw [performAll, h]

lemma performAll_cons_of_none {step : Step} {rest : List Step} {b a : Progress σ τ}
    (h : step.attempt backend sink b = (none, a)) :
    performAll backend sink (step :: rest) b = performAll backend sink rest a := by
  rw [performAll, h]

lemma performAll_singleton (step : Step) (b : Progress σ τ) :
    performAll backend sink [step] b = step.attempt backend sink b := by
  rw [performAll]
  rcases step.attempt backend sink b with ⟨_ | failure, a⟩ <;> rfl

lemma performAll_append_of_some {steps : List Step} (rest : List Step) {b a : Progress σ τ}
    {failure : Failure} (h : performAll backend sink steps b = (some failure, a)) :
    performAll backend sink (steps ++ rest) b = (some failure, a) := by
  induction steps generalizing b with
  | nil => simp at h
  | cons step steps ih =>
    rcases hstep : step.attempt backend sink b with ⟨_ | failure', m⟩
    · rw [performAll_cons_of_none hstep] at h
      rw [List.cons_append, performAll_cons_of_none hstep, ih h]
    · rw [performAll_cons_of_some hstep] at h
      rw [List.cons_append, performAll_cons_of_some hstep, h]

lemma performAll_append_of_none {steps : List Step} (rest : List Step) {b a : Progress σ τ}
    (h : performAll backend sink steps b = (none, a)) :
    performAll backend sink (steps ++ rest) b = performAll backend sink rest a := by
  induction steps generalizing b with
  | nil =>
    obtain rfl : b = a := congrArg Prod.snd h
    rfl
  | cons step steps ih =>
    rcases hstep : step.attempt backend sink b with ⟨_ | failure, m⟩
    · rw [performAll_cons_of_none hstep] at h
      rw [List.cons_append, performAll_cons_of_none hstep, ih h]
    · rw [performAll_cons_of_some hstep] at h
      simp at h

/-- What every step keeps is kept by a list of steps. -/
lemma performAll_invariant {P : Progress σ τ → Prop} {steps : List Step} {b : Progress σ τ}
    (hstep : ∀ (step : Step) (b : Progress σ τ), P b → P (step.attempt backend sink b).2)
    (hb : P b) : P (performAll backend sink steps b).2 := by
  induction steps generalizing b with
  | nil => exact hb
  | cons step steps ih =>
    have ha := hstep step b hb
    rcases hs : step.attempt backend sink b with ⟨_ | failure, a⟩ <;> rw [hs] at ha
    · rw [performAll_cons_of_none hs]
      exact ih ha
    · rw [performAll_cons_of_some hs]
      exact ha

/-- Two lists of steps succeed together if each of them does. -/
lemma performAll_append_eq_none {steps rest : List Step} {b a : Progress σ τ}
    (h : performAll backend sink (steps ++ rest) b = (none, a)) :
    ∃ m, performAll backend sink steps b = (none, m) ∧
      performAll backend sink rest m = (none, a) := by
  rcases hsteps : performAll backend sink steps b with ⟨_ | failure, m⟩
  · rw [performAll_append_of_none rest hsteps] at h
    exact ⟨m, rfl, h⟩
  · rw [performAll_append_of_some rest hsteps] at h
    cases congrArg Prod.fst h

end Step

/-! ## What one step does -/

namespace Step

section Probe

variable (backend : Backend σ) (sink : Sink τ) {p : Probe} (under : Option String)
  (b : Progress σ τ)

lemma attempt_of_referenceFailure {failure : Failure} (h : p.referenceFailure? = some failure) :
    (probe under p).attempt backend sink b = (some failure, b) := by
  rw [attempt, h]

lemma attempt_of_literal {value : Int32} (h : p.referenceFailure? = none)
    (hc : p.compiled = .literal value) :
    (probe under p).attempt backend sink b
      = (none, b.noted (p.record under p.referenceValue? value)) := by
  simp only [attempt, h, hc]

lemma attempt_of_call {args : List Int32} (h : p.referenceFailure? = none)
    (hc : p.compiled = .call args) (hlen : args.length = p.operation.arity) :
    (probe under p).attempt backend sink b
      = (none, b.answered (backend.call p.operation ⟨args, hlen⟩ b.backend).2 ⟨p.operation, args⟩
          (p.record under p.referenceValue?
            (backend.call p.operation ⟨args, hlen⟩ b.backend).1)) := by
  simp only [attempt, h, hc, dif_pos hlen]

lemma attempt_of_call_refused {args : List Int32} (h : p.referenceFailure? = none)
    (hc : p.compiled = .call args) (hlen : args.length ≠ p.operation.arity) :
    (probe under p).attempt backend sink b = (some (p.operation.arityFailure args), b) := by
  simp only [attempt, h, hc, dif_neg hlen]

end Probe

/-- The event that a step puts to the sink, if it puts one. -/
def event? (b : Progress σ τ) : Step → Option Event
  | heading text => some (.heading text)
  | probe _ _ => none
  | record => b.records.getLast?.map .record
  | finish => some .finish

variable (backend : Backend σ) (sink : Sink τ)

lemma attempt_of_event {step : Step} {b : Progress σ τ} {event : Event}
    (h : step.event? b = some event) : step.attempt backend sink b = b.offer sink event := by
  cases step with
  | heading text =>
    cases h
    rfl
  | finish =>
    cases h
    rfl
  | record =>
    obtain ⟨r, hr, rfl⟩ := Option.map_eq_some_iff.mp h
    rw [attempt, hr]
  | probe under p => cases h

/-- Everything that a step can do: it puts an event to the sink; there is no record to report; a
probe is refused, reports its literal, or gets an answer to its call. -/
lemma attempt_cases (step : Step) (b : Progress σ τ) :
    (∃ event, step.event? b = some event ∧ step.attempt backend sink b = b.offer sink event) ∨
    (step = record ∧ step.attempt backend sink b = (none, b)) ∨
    (∃ under p failure, step = probe under p ∧
      step.attempt backend sink b = (some failure, b)) ∨
    (∃ under p value, step = probe under p ∧ p.compiled = .literal value ∧
      step.attempt backend sink b = (none, b.noted (p.record under p.referenceValue? value))) ∨
    (∃ under p args, ∃ hlen : args.length = p.operation.arity,
      step = probe under p ∧ p.compiled = .call args ∧
      step.attempt backend sink b
        = (none, b.answered (backend.call p.operation ⟨args, hlen⟩ b.backend).2 ⟨p.operation, args⟩
            (p.record under p.referenceValue?
              (backend.call p.operation ⟨args, hlen⟩ b.backend).1))) := by
  rcases hevent : step.event? b with _ | event
  · -- without an event the step is a probe, or there is no record to report
    right
    cases step with
    | heading text => cases hevent
    | finish => cases hevent
    | record =>
      left
      refine ⟨rfl, ?_⟩
      rw [attempt, Option.map_eq_none_iff.mp hevent]
    | probe under p =>
      right
      rcases p.cases with
        ⟨failure, hp⟩ | ⟨value, hp, hc⟩ | ⟨args, hlen, hp, hc⟩ | ⟨args, hlen, hp, hc⟩
      · exact .inl ⟨under, p, failure, rfl, attempt_of_referenceFailure backend sink under b hp⟩
      · exact .inr (.inl ⟨under, p, value, rfl, hc, attempt_of_literal backend sink under b hp hc⟩)
      · exact .inr (.inr
          ⟨under, p, args, hlen, rfl, hc, attempt_of_call backend sink under b hp hc hlen⟩)
      · exact .inl ⟨under, p, _, rfl, attempt_of_call_refused backend sink under b hp hc hlen⟩
  · exact .inl ⟨event, rfl, attempt_of_event backend sink hevent⟩

end Step

/-! ## A run performs its plan -/

namespace Outcome

variable {α β γ : Type}

lemma map_id (o : Outcome σ τ α) : o.map id = o := by
  rcases o with ⟨_ | _, _, _⟩ <;> rfl

lemma map_map (f : α → β) (g : β → γ) (o : Outcome σ τ α) : (o.map f).map g = o.map (g ∘ f) := by
  rcases o with ⟨_ | _, _, _⟩ <;> rfl

end Outcome

section Performing

variable (backend : Backend σ) (sink : Sink τ)

variable {backend sink} in
/-- Going on after a run is performing one list of steps after another, if both parts are. -/
lemma Outcome.map_andThen_eq_outcome {α β : Type} {o : Outcome σ τ α}
    {next : α → σ → τ → Outcome σ τ β} {f : α → List Record} {g : β → List Record}
    {steps rest : List Step} {b : Progress σ τ}
    (ho : o.map f = Progress.outcome (Step.performAll backend sink steps b))
    (hnext : ∀ (value : α) (a : Progress σ τ), a.records = f value →
      (next value a.backend a.sink).map g
        = Progress.outcome (Step.performAll backend sink rest a)) :
    (o.andThen next).map g
      = Progress.outcome (Step.performAll backend sink (steps ++ rest) b) := by
  obtain ⟨result, s, t⟩ := o
  -- both sides have the same result, so two of the four cases do not occur
  rcases hp : Step.performAll backend sink steps b with ⟨_ | failure, a⟩
  · rw [hp] at ho
    cases result with
    | error failure => simp [Outcome.map, Except.map, Progress.outcome] at ho
    | ok value =>
      simp only [Outcome.map, Except.map, Progress.outcome, Outcome.mk.injEq, Except.ok.injEq] at ho
      obtain ⟨hrecords, rfl, rfl⟩ := ho
      rw [Step.performAll_append_of_none rest hp]
      exact hnext value a hrecords.symm
  · rw [hp] at ho
    cases result with
    | error failure' =>
      simp only [Outcome.map, Except.map, Progress.outcome, Outcome.mk.injEq,
        Except.error.injEq] at ho
      obtain ⟨rfl, rfl, rfl⟩ := ho
      rw [Step.performAll_append_of_some rest hp]
      rfl
    | ok value => simp [Outcome.map, Except.map, Progress.outcome] at ho

/-- Telling the sink is offering it the event. -/
lemma Sink.tell_map_eq_outcome (event : Event) (b : Progress σ τ) :
    (sink.tell event b.backend b.sink).map (fun _ => b.records)
      = Progress.outcome (b.offer sink event) := by
  rcases h : sink.accept event b.sink with ⟨_ | _, t⟩ <;>
    simp [Sink.tell, Progress.offer, Outcome.map, Except.map, Progress.outcome, failure?, h]

/-- The record of the probe that was asked last is reported by the step after it. -/
lemma Sink.tell_record_map_eq_outcome {r : Record} {records : List Record} {a : Progress σ τ}
    (h : a.records = records ++ [r]) :
    ((sink.tell (.record r) a.backend a.sink).map fun _ => r).map (fun r => records ++ [r])
      = Progress.outcome (Step.performAll backend sink [.record] a) := by
  have hlast : a.records.getLast? = some r := by rw [h, List.getLast?_concat]
  have hevent : Step.record.event? a = some (.record r) := by rw [Step.event?, hlast]; rfl
  rw [Outcome.map_map, Step.performAll_singleton, Step.attempt_of_event backend sink hevent,
    ← Sink.tell_map_eq_outcome, h]
  rfl

/-- A probe is run in two steps: it is asked, and its record is reported. -/
lemma Probe.run_map_eq_outcome (under : Option String) (p : Probe) (b : Progress σ τ) :
    (p.run backend sink under b.backend b.sink).map (fun r => b.records ++ [r])
      = Progress.outcome (Step.performAll backend sink (p.plan under) b) := by
  rw [Probe.run, Probe.plan]
  rcases p.cases with ⟨failure, hp⟩ | ⟨value, hp, hc⟩ | ⟨args, hlen, hp, hc⟩ | ⟨args, hlen, hp, hc⟩
  · rw [execute_of_referenceFailure backend under b.backend hp,
      Step.performAll_cons_of_some (Step.attempt_of_referenceFailure backend sink under b hp)]
    rfl
  · rw [execute_of_literal backend under b.backend hp hc,
      Step.performAll_cons_of_none (Step.attempt_of_literal backend sink under b hp hc)]
    exact Sink.tell_record_map_eq_outcome backend sink (a := b.noted _) rfl
  · rw [execute_of_call backend under b.backend hp hc hlen,
      Step.performAll_cons_of_none (Step.attempt_of_call backend sink under b hp hc hlen)]
    exact Sink.tell_record_map_eq_outcome backend sink (a := b.answered _ _ _) rfl
  · rw [execute_of_call_refused backend under b.backend hp hc hlen,
      Step.performAll_cons_of_some (Step.attempt_of_call_refused backend sink under b hp hc hlen)]
    rfl

/-- Probes under one heading are run by performing their steps. -/
lemma Probe.runAll_map_eq_outcome (under : Option String) (probes : List Probe)
    (b : Progress σ τ) :
    (Probe.runAll backend sink under probes b.backend b.sink).map (b.records ++ ·)
      = Progress.outcome (Step.performAll backend sink (probes.flatMap (Probe.plan under)) b) := by
  induction probes generalizing b with
  | nil => simp [Probe.runAll, Outcome.map, Except.map, Progress.outcome]
  | cons p probes ih =>
    rw [Probe.runAll, List.flatMap_cons]
    refine Outcome.map_andThen_eq_outcome (Probe.run_map_eq_outcome backend sink under p b) ?_
    intro r a ha
    rw [Outcome.map_map, ← ih a, ha]
    simp [Function.comp_def]

/-- The heading of a group is announced by performing its step, if it has one. -/
lemma ProbeGroup.announce_map_eq_outcome (g : ProbeGroup) (b : Progress σ τ) :
    (g.announce sink b.backend b.sink).map (fun _ => b.records)
      = Progress.outcome
          (Step.performAll backend sink (g.heading.map Step.heading).toList b) := by
  rw [ProbeGroup.announce]
  rcases g.heading with _ | text
  · rfl
  · rw [Option.map_some, Option.toList_some, Step.performAll_singleton]
    exact Sink.tell_map_eq_outcome sink (.heading text) b

/-- A group is run by performing its plan. -/
lemma ProbeGroup.run_map_eq_outcome (g : ProbeGroup) (b : Progress σ τ) :
    (g.run backend sink b.backend b.sink).map (b.records ++ ·)
      = Progress.outcome (Step.performAll backend sink g.plan b) := by
  rw [ProbeGroup.run, ProbeGroup.plan]
  refine Outcome.map_andThen_eq_outcome (g.announce_map_eq_outcome backend sink b) ?_
  intro _ a ha
  rw [← ha]
  exact Probe.runAll_map_eq_outcome backend sink g.heading g.probes a

lemma ProbeGroup.runAll_map_eq_outcome (groups : List ProbeGroup) (b : Progress σ τ) :
    (ProbeGroup.runAll backend sink groups b.backend b.sink).map (b.records ++ ·)
      = Progress.outcome (Step.performAll backend sink (groups.flatMap ProbeGroup.plan) b) := by
  induction groups generalizing b with
  | nil => simp [ProbeGroup.runAll, Outcome.map, Except.map, Progress.outcome]
  | cons g groups ih =>
    rw [ProbeGroup.runAll, List.flatMap_cons]
    refine Outcome.map_andThen_eq_outcome (g.run_map_eq_outcome backend sink b) ?_
    intro records a ha
    rw [Outcome.map_map, ← ih a, ha]
    simp [Function.comp_def]

/-- **A run performs its plan**, from the first step up to the first that fails. -/
theorem Suite.run_eq_performAll (suite : Suite) (s : σ) (t : τ) :
    suite.run backend sink s t
      = Progress.outcome (Step.performAll backend sink suite.plan (.start s t)) := by
  have hbody := ProbeGroup.runAll_map_eq_outcome backend sink suite.groups (.start s t)
  rw [← Outcome.map_id (suite.run backend sink s t), Suite.plan, Suite.body]
  refine Outcome.map_andThen_eq_outcome hbody ?_
  intro records a ha
  rw [Outcome.map_map, Step.performAll_singleton]
  have hrecords : records = a.records := ha.symm
  rw [hrecords]
  exact Sink.tell_map_eq_outcome sink .finish a

end Performing

/-! ## Watching a run -/

/-- The same sink, writing down every event that is put to it, whether it takes it or not. -/
def Sink.recording (sink : Sink τ) : Sink (τ × List Event) where
  accept event t := ((sink.accept event t.1).1, (sink.accept event t.1).2, t.2 ++ [event])

/-- The same progress, for a backend that writes down its calls. -/
def Progress.withCalls (b : Progress σ τ) : Progress (σ × List Call) τ :=
  ⟨(b.backend, b.calls), b.sink, b.calls, b.events, b.records⟩

/-- The same progress, for a sink that writes down its events. -/
def Progress.withEvents (b : Progress σ τ) : Progress σ (τ × List Event) :=
  ⟨b.backend, (b.sink, b.events), b.calls, b.events, b.records⟩

namespace Step

/-- A translation of progress between two backends and two sinks: it keeps the records, and it
fits each thing that a step can do. -/
structure Translation {σ' τ' : Type} (backend : Backend σ) (sink : Sink τ) (backend' : Backend σ')
    (sink' : Sink τ') (f : Progress σ τ → Progress σ' τ') : Prop where
  records : ∀ b, (f b).records = b.records
  offer : ∀ event b, (f b).offer sink' event = Prod.map id f (b.offer sink event)
  noted : ∀ r b, (f b).noted r = f (b.noted r)
  value : ∀ op args b,
    (backend'.call op args (f b).backend).1 = (backend.call op args b.backend).1
  answered : ∀ (op : Operation) (args : op.Args) r b,
    (f b).answered (backend'.call op args (f b).backend).2 ⟨op, args.val⟩ r
      = f (b.answered (backend.call op args b.backend).2 ⟨op, args.val⟩ r)

namespace Translation

variable {σ' τ' : Type} {backend : Backend σ} {sink : Sink τ} {backend' : Backend σ'}
  {sink' : Sink τ'} {f : Progress σ τ → Progress σ' τ'}

lemma attempt (h : Translation backend sink backend' sink' f) (step : Step) (b : Progress σ τ) :
    step.attempt backend' sink' (f b) = Prod.map id f (step.attempt backend sink b) := by
  cases step with
  | heading text => exact h.offer (.heading text) b
  | finish => exact h.offer .finish b
  | record =>
    rw [Step.attempt, Step.attempt, h.records]
    rcases b.records.getLast? with _ | r
    · rfl
    · exact h.offer (.record r) b
  | probe under p =>
    rcases p.cases with
      ⟨failure, hp⟩ | ⟨value, hp, hc⟩ | ⟨args, hlen, hp, hc⟩ | ⟨args, hlen, hp, hc⟩
    · rw [attempt_of_referenceFailure _ _ _ _ hp, attempt_of_referenceFailure _ _ _ _ hp]
      rfl
    · rw [attempt_of_literal _ _ _ _ hp hc, attempt_of_literal _ _ _ _ hp hc, h.noted]
      rfl
    · rw [attempt_of_call _ _ _ _ hp hc hlen, attempt_of_call _ _ _ _ hp hc hlen, h.value]
      exact congrArg (Prod.mk none) (h.answered _ ⟨args, hlen⟩ _ b)
    · rw [attempt_of_call_refused _ _ _ _ hp hc hlen, attempt_of_call_refused _ _ _ _ hp hc hlen]
      rfl

/-- What fits every step fits every list of steps. -/
lemma performAll (h : Translation backend sink backend' sink' f) (steps : List Step)
    (b : Progress σ τ) :
    Step.performAll backend' sink' steps (f b)
      = Prod.map id f (Step.performAll backend sink steps b) := by
  induction steps generalizing b with
  | nil => rfl
  | cons step steps ih =>
    have hstep := h.attempt step b
    rcases ha : step.attempt backend sink b with ⟨_ | failure, a⟩
    · rw [ha] at hstep
      rw [performAll_cons_of_none hstep, performAll_cons_of_none ha]
      exact ih a
    · rw [ha] at hstep
      rw [performAll_cons_of_some hstep, performAll_cons_of_some ha]
      rfl

end Translation

lemma translation_withCalls (backend : Backend σ) (sink : Sink τ) :
    Translation backend sink backend.recording sink Progress.withCalls where
  records _ := rfl
  offer _ _ := rfl
  noted _ _ := rfl
  value op args b := congrArg Prod.fst (backend.call_recording op args b.backend b.calls)
  answered op args r b := by
    have hcall := backend.call_recording op args b.backend b.calls
    rw [Progress.withCalls, hcall]
    rfl

lemma translation_withEvents (backend : Backend σ) (sink : Sink τ) :
    Translation backend sink backend sink.recording Progress.withEvents :=
  ⟨fun _ => rfl, fun _ _ => rfl, fun _ _ => rfl, fun _ _ _ => rfl, fun _ _ _ _ => rfl⟩

end Step

/-- A run that writes down the calls ends where the plan was left, with the calls made until
then. -/
lemma Suite.run_recording_backend (backend : Backend σ) (sink : Sink τ) (suite : Suite) (s : σ)
    (t : τ) :
    suite.run backend.recording sink (s, []) t
      = Progress.outcome (Prod.map id Progress.withCalls
          (Step.performAll backend sink suite.plan (.start s t))) := by
  rw [Suite.run_eq_performAll,
    ← (Step.translation_withCalls backend sink).performAll]
  rfl

/-- A run that writes down calls and events ends where the plan was left, with what happened until
then. -/
lemma Suite.run_recording (backend : Backend σ) (sink : Sink τ) (suite : Suite) (s : σ) (t : τ) :
    suite.run backend.recording sink.recording (s, []) (t, [])
      = Progress.outcome (Prod.map id (Progress.withCalls ∘ Progress.withEvents)
          (Step.performAll backend sink suite.plan (.start s t))) := by
  rw [Suite.run_recording_backend]
  have h := (Step.translation_withEvents backend sink).performAll suite.plan (.start s t)
  have hstart : (Progress.start s t).withEvents = Progress.start s (t, []) := rfl
  rw [← hstart, h, Prod.map_map]
  rfl

end Conformance
