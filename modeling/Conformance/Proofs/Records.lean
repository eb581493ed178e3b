/-
# The records of a run

A run that succeeds has made one record for each probe.  `Answered` says how they come about: the
probes are gone through in order, a literal is taken as it is, and a call takes the next answer of
the backend.  It leaves out the sink, which has no influence on the records, and is established
once, by `Suite.answered_of_performAll`, from the plan of the suite.

The main result, `Suite.records_correspond`, reads it by position.
-/
import Conformance.Proofs.FirstFailure
import Conformance.Proofs.Trimming
import Mathlib.Data.List.Basic

namespace Conformance

variable {σ τ : Type}

/-! ## Probes and calls of a suite -/

/-- All probes in order, each with the heading of its group. -/
def Suite.placed (suite : Suite) : List (Option String × Probe) :=
  suite.groups.flatMap fun g => g.probes.map (g.heading, ·)

lemma Suite.map_snd_placed (suite : Suite) : suite.placed.map Prod.snd = suite.probes := by
  simp [Suite.placed, Suite.probes, List.map_flatMap, Function.comp_def]

/-- The calls that the probes of a suite make, in order. -/
def Suite.calls (suite : Suite) : List Call := suite.probes.filterMap Probe.call?

/-- What a backend answers to calls made one after the other. -/
def Backend.answers (backend : Backend σ) : List Call → σ → List (Except Failure Int32)
  | [], _ => []
  | c :: calls, s =>
    (backend.invoke c.operation c.args s).1
      :: answers backend calls (backend.invoke c.operation c.args s).2

/-! ## How records come about -/

/-- The records that probes get from a backend that is in the state `s` before, and the state it is
in after. -/
inductive Answered (backend : Backend σ) :
    List (Option String × Probe) → σ → List Record → σ → Prop
  | nil (s : σ) : Answered backend [] s [] s
  | literal {under : Option String} {p : Probe} {value : Int32}
      {placed : List (Option String × Probe)} {s s' : σ} {records : List Record}
      (hp : p.referenceFailure? = none) (hc : p.compiled = .literal value)
      (h : Answered backend placed s records s') :
      Answered backend ((under, p) :: placed) s
        (p.record under p.referenceValue? value :: records) s'
  | call {under : Option String} {p : Probe} {args : List Int32}
      {placed : List (Option String × Probe)} {s s' : σ} {records : List Record}
      (hp : p.referenceFailure? = none) (hc : p.compiled = .call args)
      (hlen : args.length = p.operation.arity)
      (h : Answered backend placed (backend.call p.operation ⟨args, hlen⟩ s).2 records s') :
      Answered backend ((under, p) :: placed) s
        (p.record under p.referenceValue? (backend.call p.operation ⟨args, hlen⟩ s).1 :: records) s'

namespace Answered

variable {backend : Backend σ} {placed placed' : List (Option String × Probe)}
  {s s' s'' : σ} {records records' : List Record}

lemma append (h : Answered backend placed s records s')
    (h' : Answered backend placed' s' records' s'') :
    Answered backend (placed ++ placed') s (records ++ records') s'' := by
  induction h with
  | nil => exact h'
  | literal hp hc _ ih => exact .literal hp hc (ih h')
  | call hp hc hlen _ ih => exact .call hp hc hlen (ih h')

lemma length_eq (h : Answered backend placed s records s') : records.length = placed.length := by
  induction h with
  | nil => rfl
  | literal hp hc _ ih => rw [List.length_cons, List.length_cons, ih]
  | call hp hc hlen _ ih => rw [List.length_cons, List.length_cons, ih]

/-- Where a record comes from: a probe whose reference did not fail, and a value that is the probe's
literal or an answer of the backend, in some state, to the probe's call. -/
lemma exists_probe_of_mem (h : Answered backend placed s records s') {r : Record}
    (hr : r ∈ records) :
    ∃ under p value, (under, p) ∈ placed ∧ p.referenceFailure? = none ∧
      r = p.record under p.referenceValue? value ∧
      (p.compiled = .literal value ∨
        ∃ args, ∃ hlen : args.length = p.operation.arity, ∃ s₁ : σ,
          p.compiled = .call args ∧ value = (backend.call p.operation ⟨args, hlen⟩ s₁).1) := by
  induction h with
  | nil => cases hr
  | @literal under p value _ _ _ _ hp hc _ ih =>
    rcases List.mem_cons.mp hr with rfl | hr
    · exact ⟨under, p, value, List.mem_cons_self, hp, rfl, .inl hc⟩
    · obtain ⟨under', p', value', hmem, hrest⟩ := ih hr
      exact ⟨under', p', value', List.mem_cons_of_mem _ hmem, hrest⟩
  | @call under p args _ s₁ _ _ hp hc hlen _ ih =>
    rcases List.mem_cons.mp hr with rfl | hr
    · exact ⟨under, p, _, List.mem_cons_self, hp, rfl, .inr ⟨args, hlen, s₁, hc, rfl⟩⟩
    · obtain ⟨under', p', value', hmem, hrest⟩ := ih hr
      exact ⟨under', p', value', List.mem_cons_of_mem _ hmem, hrest⟩

end Answered

/-! ## What a record says -/

/-- What a record says about a probe that stands under a heading, or under none.  The answer to the
probe's call is `answer?`; a probe that reports a literal has no use for it. -/
structure Record.Reports (r : Record) (under : Option String) (p : Probe)
    (answer? : Option (Except Failure Int32)) : Prop where
  function : r.function = p.operation.symbol
  label : r.label = p.label
  layout : r.layout = p.layout
  referenceArgs : r.referenceArgs = p.referenceArgs
  normal_of_none : p.referenceArgs = none → r.normal = none
  normal_of_some : ∀ args, p.referenceArgs = some args → ∃ h : args.length = p.operation.arity,
    r.normal = p.operation.reference?.map fun f => f.apply args h
  literal : ∀ value, p.compiled = .literal value → r.compiledArgs = none ∧ r.compiled = value
  call : ∀ args, p.compiled = .call args →
    r.compiledArgs = some args ∧ answer? = some (.ok r.compiled)
  untitled : under = none → r.group = none
  titled : ∀ heading, under = some heading → ∃ title colons : String,
    r.group = some title ∧ heading = title ++ colons ∧ (∀ c ∈ colons.toList, c = ':') ∧
      title.toList.getLast? ≠ some ':'

/-- The record of a probe says about it what it should, if its value is the literal or the
answer. -/
lemma Probe.reports_record {p : Probe} {answer? : Option (Except Failure Int32)} {value : Int32}
    (under : Option String) (hp : p.referenceFailure? = none)
    (hliteral : ∀ v, p.compiled = .literal v → v = value)
    (hcall : ∀ args, p.compiled = .call args → answer? = some (.ok value)) :
    (p.record under p.referenceValue? value).Reports under p answer? where
  function := rfl
  label := rfl
  layout := rfl
  referenceArgs := rfl
  normal_of_none hargs := by
    change p.referenceValue? = none
    rw [Probe.referenceValue?, hargs]
  normal_of_some args hargs := by
    have hlen := Probe.referenceFailure?_eq_none_iff.mp hp args hargs
    refine ⟨hlen, ?_⟩
    change p.referenceValue? = _
    simp only [Probe.referenceValue?, hargs, dif_pos hlen]
  literal v hc := by
    refine ⟨?_, (hliteral v hc).symm⟩
    change p.compiledArgs = none
    rw [Probe.compiledArgs, hc]
  call args hc := by
    refine ⟨?_, hcall args hc⟩
    change p.compiledArgs = some args
    rw [Probe.compiledArgs, hc]
  untitled hunder := by
    subst hunder
    rfl
  titled heading hunder := by
    subst hunder
    obtain ⟨colons, hsplit, hcolons, hlast⟩ :=
      Text.exists_eq_dropEndWhile_append (· == ':') heading
    refine ⟨Probe.groupTitle heading, colons, rfl, hsplit, ?_, ?_⟩
    · intro c hc
      exact beq_iff_eq.mp (hcolons c hc)
    · intro hlast'
      exact absurd (hlast ':' hlast') (by simp)

/-- The records of probes, by position: the answer to a call is found after as many answers as
there are calls before it. -/
lemma Answered.getElem?_reports {backend : Backend σ} {placed : List (Option String × Probe)}
    {s s' : σ} {records : List Record} (h : Answered backend placed s records s') :
    ∀ (i : ℕ) (under : Option String) (p : Probe), placed[i]? = some (under, p) →
      ∃ r, records[i]? = some r ∧
        r.Reports under p
          (backend.answers ((placed.map Prod.snd).filterMap Probe.call?) s)[
            (((placed.map Prod.snd).take i).filterMap Probe.call?).length]? := by
  induction h with
  | nil => simp
  | @literal under p value placed s s' records hp hc h ih =>
    have hnone : p.call? = none := by rw [Probe.call?, hc]
    intro i under' p' hi
    cases i with
    | zero =>
      obtain ⟨rfl, rfl⟩ : under = under' ∧ p = p' := by simpa using hi
      refine ⟨_, rfl, Probe.reports_record under hp ?_ ?_⟩
      · intro v hv
        exact CompiledSide.literal.inj (hv.symm.trans hc)
      · intro args hargs
        cases hargs.symm.trans hc
    | succ i =>
      obtain ⟨r, hr, hreports⟩ := ih i under' p' (by simpa using hi)
      refine ⟨r, by simpa using hr, ?_⟩
      -- no call, so the answers are counted as before
      simpa [hnone] using hreports
  | @call under p args placed s s' records hp hc hlen h ih =>
    have hsome : p.call? = some ⟨p.operation, args⟩ := by rw [Probe.call?, hc]
    have hinvoke := backend.invoke_of_length hlen s
    intro i under' p' hi
    cases i with
    | zero =>
      obtain ⟨rfl, rfl⟩ : under = under' ∧ p = p' := by simpa using hi
      refine ⟨_, rfl, Probe.reports_record under hp ?_ ?_⟩
      · intro v hv
        cases hv.symm.trans hc
      · intro args' _
        simp [hsome, Backend.answers, hinvoke]
    | succ i =>
      obtain ⟨r, hr, hreports⟩ := ih i under' p' (by simpa using hi)
      refine ⟨r, by simpa using hr, ?_⟩
      -- one more answer is used up, and the backend goes on from the state after it
      simpa [hsome, Backend.answers, hinvoke] using hreports

/-! ## From steps to records -/

section Performing

variable {backend : Backend σ} {sink : Sink τ}

/-- What the report of a record leaves behind. -/
lemma Step.performAll_record {records : List Record} {r : Record} {b a : Progress σ τ}
    (hb : b.records = records ++ [r])
    (h : performAll backend sink [record] b = (none, a)) :
    a.backend = b.backend ∧ a.records = records ++ [r] ∧ a.events = b.events ++ [.record r] := by
  have hevent : record.event? b = some (.record r) := by
    rw [event?, hb, List.getLast?_concat]
    rfl
  rw [performAll_singleton, attempt_of_event backend sink hevent] at h
  obtain rfl : (b.offer sink (.record r)).2 = a := congrArg Prod.snd h
  exact ⟨rfl, hb, rfl⟩

lemma Probe.answered_of_performAll {under : Option String} {p : Probe} {b a : Progress σ τ}
    (h : Step.performAll backend sink (p.plan under) b = (none, a)) :
    ∃ r, Answered backend [(under, p)] b.backend [r] a.backend ∧
      a.records = b.records ++ [r] ∧ a.events = b.events ++ [.record r] := by
  rw [Probe.plan] at h
  rcases p.cases with ⟨failure, hp⟩ | ⟨value, hp, hc⟩ | ⟨args, hlen, hp, hc⟩ | ⟨args, hlen, hp, hc⟩
  · rw [Step.performAll_cons_of_some (Step.attempt_of_referenceFailure _ _ _ _ hp)] at h
    cases congrArg Prod.fst h
  · rw [Step.performAll_cons_of_none (Step.attempt_of_literal _ _ _ _ hp hc)] at h
    obtain ⟨hbackend, hrecords, hevents⟩ := Step.performAll_record rfl h
    refine ⟨_, ?_, hrecords, hevents⟩
    rw [hbackend]
    exact .literal hp hc (.nil _)
  · rw [Step.performAll_cons_of_none (Step.attempt_of_call _ _ _ _ hp hc hlen)] at h
    obtain ⟨hbackend, hrecords, hevents⟩ := Step.performAll_record rfl h
    refine ⟨_, ?_, hrecords, hevents⟩
    rw [hbackend]
    exact .call hp hc hlen (.nil _)
  · rw [Step.performAll_cons_of_some (Step.attempt_of_call_refused _ _ _ _ hp hc hlen)] at h
    cases congrArg Prod.fst h

lemma Probe.answered_of_performAll_all {under : Option String} {probes : List Probe}
    {b a : Progress σ τ}
    (h : Step.performAll backend sink (probes.flatMap (Probe.plan under)) b = (none, a)) :
    ∃ records, Answered backend (probes.map (under, ·)) b.backend records a.backend ∧
      a.records = b.records ++ records ∧ a.events = b.events ++ records.map .record := by
  induction probes generalizing b with
  | nil =>
    obtain rfl : b = a := congrArg Prod.snd h
    exact ⟨[], .nil _, by simp, by simp⟩
  | cons p probes ih =>
    rw [List.flatMap_cons] at h
    obtain ⟨m, hp, hprobes⟩ := Step.performAll_append_eq_none h
    obtain ⟨r, hr, hrecords, hevents⟩ := Probe.answered_of_performAll hp
    obtain ⟨records, hrest, hrecords', hevents'⟩ := ih hprobes
    refine ⟨r :: records, hr.append hrest, ?_, ?_⟩
    · rw [hrecords', hrecords, List.append_assoc]
      rfl
    · rw [hevents', hevents, List.append_assoc]
      rfl

/-- The events of a group: its heading, if it has one, and then its records. -/
def ProbeGroup.events (g : ProbeGroup) (records : List Record) : List Event :=
  (g.heading.map Event.heading).toList ++ records.map .record

/-- What the announcement of a heading leaves behind. -/
lemma Step.performAll_heading {heading : Option String} {b a : Progress σ τ}
    (h : performAll backend sink (heading.map Step.heading).toList b = (none, a)) :
    a.backend = b.backend ∧ a.records = b.records ∧
      a.events = b.events ++ (heading.map Event.heading).toList := by
  cases heading with
  | none =>
    obtain rfl : b = a := congrArg Prod.snd h
    simp
  | some text =>
    rw [Option.map_some, Option.toList_some, performAll_singleton] at h
    obtain rfl : (b.offer sink (.heading text)).2 = a := congrArg Prod.snd h
    exact ⟨rfl, rfl, rfl⟩

lemma ProbeGroup.answered_of_performAll {g : ProbeGroup} {b a : Progress σ τ}
    (h : Step.performAll backend sink g.plan b = (none, a)) :
    ∃ records, Answered backend (g.probes.map (g.heading, ·)) b.backend records a.backend ∧
      a.records = b.records ++ records ∧ a.events = b.events ++ g.events records := by
  rw [ProbeGroup.plan] at h
  obtain ⟨m, hheading, hprobes⟩ := Step.performAll_append_eq_none h
  obtain ⟨hbackend, hrecords, hevents⟩ := Step.performAll_heading hheading
  obtain ⟨records, hanswered, hrecords', hevents'⟩ := Probe.answered_of_performAll_all hprobes
  refine ⟨records, hbackend ▸ hanswered, ?_, ?_⟩
  · rw [hrecords', hrecords]
  · rw [hevents', hevents, List.append_assoc]
    rfl

/-- The records of groups, cut where the groups are cut. -/
lemma ProbeGroup.answered_of_performAll_all {groups : List ProbeGroup} {b a : Progress σ τ}
    (h : Step.performAll backend sink (groups.flatMap ProbeGroup.plan) b = (none, a)) :
    ∃ parts : List (List Record),
      Answered backend (groups.flatMap fun g => g.probes.map (g.heading, ·)) b.backend
        parts.flatten a.backend ∧
      parts.map List.length = groups.map (·.probes.length) ∧
      a.records = b.records ++ parts.flatten ∧
      a.events = b.events ++ (List.zipWith ProbeGroup.events groups parts).flatten := by
  induction groups generalizing b with
  | nil =>
    obtain rfl : b = a := congrArg Prod.snd h
    exact ⟨[], .nil _, rfl, by simp, by simp⟩
  | cons g groups ih =>
    rw [List.flatMap_cons] at h
    obtain ⟨m, hg, hgroups⟩ := Step.performAll_append_eq_none h
    obtain ⟨records, hanswered, hrecords, hevents⟩ := ProbeGroup.answered_of_performAll hg
    obtain ⟨parts, hrest, hlengths, hrecords', hevents'⟩ := ih hgroups
    refine ⟨records :: parts, ?_, ?_, ?_, ?_⟩
    · rw [List.flatMap_cons, List.flatten_cons]
      exact hanswered.append hrest
    · rw [List.map_cons, List.map_cons, hlengths, hanswered.length_eq, List.length_map]
    · rw [hrecords', hrecords, List.flatten_cons, List.append_assoc]
    · rw [hevents', hevents, List.zipWith_cons_cons, List.flatten_cons, List.append_assoc]

/-- What the steps of a suite leave behind if all of them succeed. -/
lemma Suite.answered_of_performAll {suite : Suite} {s : σ} {t : τ} {a : Progress σ τ}
    (h : Step.performAll backend sink suite.plan (.start s t) = (none, a)) :
    ∃ parts : List (List Record),
      Answered backend suite.placed s a.records a.backend ∧
      parts.flatten = a.records ∧
      parts.map List.length = suite.groups.map (·.probes.length) ∧
      a.events = (List.zipWith ProbeGroup.events suite.groups parts).flatten ++ [.finish] := by
  obtain ⟨m, hbody, hfinish⟩ := Step.performAll_append_eq_none h
  obtain ⟨parts, hanswered, hlengths, hrecords, hevents⟩ :=
    ProbeGroup.answered_of_performAll_all hbody
  rw [Step.performAll_singleton] at hfinish
  obtain rfl : (m.offer sink .finish).2 = a := congrArg Prod.snd hfinish
  have hflat : parts.flatten = m.records := hrecords.symm
  refine ⟨parts, ?_, hflat, hlengths, ?_⟩
  · rw [hflat] at hanswered
    exact hanswered
  · have hm : m.events = (List.zipWith ProbeGroup.events suite.groups parts).flatten := hevents
    rw [Progress.offer, hm]

/-- A run that succeeds has performed its whole plan. -/
lemma Suite.performAll_of_run {suite : Suite} {s : σ} {t : τ} {records : List Record}
    (h : (suite.run backend sink s t).result = .ok records) :
    ∃ a, Step.performAll backend sink suite.plan (.start s t) = (none, a) ∧ a.records = records ∧
      (suite.run backend sink s t).sink = a.sink := by
  rw [Suite.run_eq_performAll] at h ⊢
  rcases hrun : Step.performAll backend sink suite.plan (.start s t) with ⟨_ | failure, a⟩
  · rw [hrun] at h
    exact ⟨a, rfl, Except.ok.inj h, rfl⟩
  · rw [hrun] at h
    cases h

/-- How the records of a run that succeeds come about. -/
lemma Suite.answered_of_run {suite : Suite} {s : σ} {t : τ} {records : List Record}
    (h : (suite.run backend sink s t).result = .ok records) :
    ∃ s', Answered backend suite.placed s records s' := by
  obtain ⟨a, hrun, rfl, -⟩ := Suite.performAll_of_run h
  obtain ⟨-, hanswered, -⟩ := Suite.answered_of_performAll hrun
  exact ⟨a.backend, hanswered⟩

end Performing

lemma ProbeGroup.filterMap_call?_plan (g : ProbeGroup) :
    g.plan.filterMap Step.call? = g.probes.filterMap Probe.call? := by
  have hheading : (g.heading.map Step.heading).toList.filterMap Step.call? = [] := by
    cases g.heading <;> rfl
  have hprobe : ∀ p, (Probe.plan g.heading p).filterMap Step.call? = p.call?.toList := by
    intro p
    rcases h : p.call? with _ | c <;> simp [Probe.plan, Step.call?, h]
  rw [ProbeGroup.plan, List.filterMap_append, hheading, List.filterMap_flatMap,
    List.filterMap_eq_flatMap_toList]
  simp only [hprobe, List.nil_append]

/-- The steps of a suite make the calls of its probes. -/
lemma Suite.filterMap_call?_plan (suite : Suite) :
    suite.plan.filterMap Step.call? = suite.calls := by
  have hfinish : [Step.finish].filterMap Step.call? = [] := rfl
  rw [Suite.plan, List.filterMap_append, hfinish, List.append_nil, Suite.body, Suite.calls,
    Suite.probes, List.filterMap_flatMap, List.filterMap_flatMap]
  simp only [ProbeGroup.filterMap_call?_plan]

lemma Suite.length_probes (suite : Suite) : suite.probes.length = suite.size := by
  obtain ⟨groups⟩ := suite
  rw [Suite.probes, Suite.size]
  induction groups with
  | nil => rfl
  | cons g groups ih => rw [List.flatMap_cons, List.length_append, List.foldr_cons, ih]

/-- A run that succeeds has as many records as there are probes. -/
lemma Suite.length_of_run {backend : Backend σ} {sink : Sink τ} {suite : Suite} {s : σ} {t : τ}
    {records : List Record} (h : (suite.run backend sink s t).result = .ok records) :
    records.length = suite.size := by
  obtain ⟨s', hanswered⟩ := Suite.answered_of_run h
  rw [hanswered.length_eq, ← suite.length_probes, ← suite.map_snd_placed, List.length_map]

/-- **The records of a run correspond to the probes.**  If a run succeeds, it has one record for
each probe, in order.  The calls are those of the probes that make one, in order and each once,
whatever the backend answers.  Each record says about its probe what `Record.Reports` lists: the
reference value at the probe's own arguments, and the literal or the answer to the probe's own call.
The sink is told each heading right before the records of its group, and the end at the end. -/
theorem Suite.records_correspond (backend : Backend σ) (sink : Sink τ) (suite : Suite) (s : σ)
    (t : τ) (records : List Record) (h : (suite.run backend sink s t).result = .ok records) :
    records.length = suite.size ∧
    suite.placed.map Prod.snd = suite.probes ∧
    (∀ (i : ℕ) (under : Option String) (p : Probe), suite.placed[i]? = some (under, p) →
      ∃ r, records[i]? = some r ∧
        r.Reports under p
          (backend.answers suite.calls s)[((suite.probes.take i).filterMap Probe.call?).length]?) ∧
    ∃ (s' : σ) (t' : τ) (parts : List (List Record)),
      parts.flatten = records ∧
      parts.map List.length = suite.groups.map (·.probes.length) ∧
      suite.run backend.recording sink.recording (s, []) (t, [])
        = ⟨.ok records, (s', suite.calls),
            (t', (List.zipWith ProbeGroup.events suite.groups parts).flatten ++ [.finish])⟩ := by
  rcases hrun : Step.performAll backend sink suite.plan (.start s t) with ⟨_ | failure, a⟩
  · have hrecords : a.records = records := by
      rw [Suite.run_eq_performAll, hrun] at h
      exact Except.ok.inj h
    obtain ⟨parts, hanswered, hflat, hlengths, hevents⟩ := Suite.answered_of_performAll hrun
    rw [hrecords] at hanswered hflat
    refine ⟨?_, suite.map_snd_placed, ?_, a.backend, a.sink, parts, hflat, hlengths, ?_⟩
    · rw [hanswered.length_eq, ← suite.length_probes, ← suite.map_snd_placed, List.length_map]
    · intro i under p hi
      have hreports := hanswered.getElem?_reports i under p hi
      rw [suite.map_snd_placed] at hreports
      exact hreports
    · have hcalls : a.calls = suite.calls := by
        rw [Step.calls_of_performAll_none hrun, suite.filterMap_call?_plan]
        rfl
      rw [Suite.run_recording, hrun, ← hcalls, ← hevents, ← hrecords]
      rfl
  · rw [Suite.run_eq_performAll, hrun] at h
    cases h

/-- A suite in which a literal stands between two calls. -/
def Suite.literalBetweenCalls : Suite :=
  ⟨[⟨some "greater::", [.compare .greater "first" [2, 1],
    .compareWith .factorial "second" [5] (.literal 120), .observe .even "third" [4] .bare]⟩]⟩

/-- The literal takes no answer: the second call gets the second one. -/
theorem Suite.records_correspond_literalBetweenCalls :
    ∃ records : List Record,
      (Suite.literalBetweenCalls.run (Backend.scripted "scripted" [7, 9]) Sink.discard 0 ()).result
        = .ok records ∧
      records.length = Suite.literalBetweenCalls.size ∧
      ∃ r, records[2]? = some r ∧
        r.Reports (some "greater::") (.observe .even "third" [4] .bare) (some (.ok 9)) := by
  have hrun : (Suite.literalBetweenCalls.run (Backend.scripted "scripted" [7, 9]) Sink.discard 0
      ()).result = .ok [
        ⟨some "greater", "test_function_greater", "first", some [2, 1], some 1, some [2, 1], 7,
          .comparison⟩,
        ⟨some "greater", "factorial", "second", some [5], some 120, none, 120, .comparison⟩,
        ⟨some "greater", "even", "third", none, none, some [4], 9, .bare⟩] := by
    decide +kernel
  obtain ⟨hlength, -, hreports, -⟩ := Suite.records_correspond _ _ _ _ _ _ hrun
  exact ⟨_, hrun, hlength, hreports 2 (some "greater::") _ rfl⟩

end Conformance
