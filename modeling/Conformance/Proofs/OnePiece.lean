/-
# A report in one piece

A report is written while the suite is run, so its destination could fail at any event.  Behind the
buffer of the program it cannot: the report on the standard suite is smaller than the buffer,
whatever the backend answers.  Nothing reaches the destination before the report is complete, and
then all of it does at once.

Three things lead there.  The probes of the standard suite have the arguments that their operations
take, so a run does not fail as long as its sink takes every event.  A record is longest when its
numbers are (`Record.widest`), and the longest records of a suite are the same for all backends, so
those of the standard suite can be counted.  And as long as the events fit into the buffer, a run
into the buffer goes the same way as a run that collects them.

The main result is `Program.yields_report`.
-/
import Conformance.Proofs.Delivery
import Conformance.Proofs.Sessions
import Conformance.Proofs.Transcript
import Mathlib.Data.Nat.Digits.Defs

namespace Conformance

variable {σ τ ω : Type}

/-! ## Probes that cannot fail -/

/-- A probe has as many arguments on either side as its operation takes. -/
def Probe.WellFormed (p : Probe) : Prop :=
  (∀ args ∈ p.referenceArgs, args.length = p.operation.arity) ∧
    ∀ args ∈ p.compiledArgs, args.length = p.operation.arity

instance (p : Probe) : Decidable p.WellFormed :=
  inferInstanceAs (Decidable (_ ∧ _))

/-- A step that asks a probe asks a well-formed one. -/
def Step.WellFormed : Step → Prop
  | probe _ p => p.WellFormed
  | _ => True

lemma Suite.wellFormed_standard : ∀ p ∈ Suite.standard.probes, p.WellFormed := by
  decide +kernel

/-- The steps of a suite are well formed if its probes are. -/
lemma Suite.wellFormed_body {suite : Suite} (h : ∀ p ∈ suite.probes, p.WellFormed) :
    ∀ step ∈ suite.body, step.WellFormed := by
  intro step hstep
  cases step with
  | probe under p =>
    simp only [Suite.body, ProbeGroup.plan, Probe.plan, List.mem_append, List.mem_flatMap,
      Option.mem_toList, Option.map_eq_some_iff, List.mem_cons, List.not_mem_nil, or_false,
      reduceCtorEq, and_false, exists_false, false_or] at hstep
    obtain ⟨g, hg, p', hp', heq⟩ := hstep
    obtain ⟨-, rfl⟩ := Step.probe.inj heq
    exact h p (List.mem_flatMap.mpr ⟨g, hg, hp'⟩)
  | heading _ | record | finish => trivial

namespace Step

variable (backend : Backend σ)

/-- A well-formed step does not fail if the sink takes every event. -/
lemma exists_attempt_collect {step : Step} (h : step.WellFormed) (b : Progress σ (List Event)) :
    ∃ a, step.attempt backend Sink.collect b = (none, a) := by
  cases step with
  | heading text => exact ⟨_, rfl⟩
  | finish => exact ⟨_, rfl⟩
  | record =>
    rw [attempt]
    rcases b.records.getLast? with _ | r <;> exact ⟨_, rfl⟩
  | probe under p =>
    rcases p.cases with
      ⟨failure, hp⟩ | ⟨value, hp, hc⟩ | ⟨args, hlen, hp, hc⟩ | ⟨args, hlen, hp, hc⟩
    · obtain ⟨args, hargs, hlen, -⟩ := Probe.referenceFailure?_eq_some_iff.mp hp
      exact absurd (h.1 args hargs) hlen
    · exact ⟨_, attempt_of_literal backend Sink.collect under b hp hc⟩
    · exact ⟨_, attempt_of_call backend Sink.collect under b hp hc hlen⟩
    · have hargs : p.compiledArgs = some args := by rw [Probe.compiledArgs, hc]
      exact absurd (h.2 args hargs) hlen

lemma exists_performAll_collect {steps : List Step} (h : ∀ step ∈ steps, step.WellFormed)
    (b : Progress σ (List Event)) : ∃ a, performAll backend Sink.collect steps b = (none, a) := by
  induction steps generalizing b with
  | nil => exact ⟨b, rfl⟩
  | cons step steps ih =>
    obtain ⟨hstep, hsteps⟩ := List.forall_mem_cons.mp h
    obtain ⟨m, hm⟩ := exists_attempt_collect backend hstep b
    obtain ⟨a, ha⟩ := ih hsteps m
    exact ⟨a, by rw [performAll_cons_of_none hm, ha]⟩

/-- What offering an event preserves of the sink and the events, a run preserves. -/
lemma events_invariant {sink : Sink τ} {P : τ → List Event → Prop}
    (hoffer : ∀ event t events, P t events → P (sink.accept event t).2 (events ++ [event]))
    {steps : List Step} {b a : Progress σ τ} (hb : P b.sink b.events)
    (h : performAll backend sink steps b = (none, a)) : P a.sink a.events := by
  have hkept : P (performAll backend sink steps b).2.sink
      (performAll backend sink steps b).2.events := by
    refine performAll_invariant (P := fun b => P b.sink b.events) (fun step b hb => ?_) hb
    obtain ⟨event, -, hs⟩ | ⟨-, hs⟩ | ⟨under, p, failure, -, hs⟩ | ⟨under, p, value, -, -, hs⟩ |
      ⟨under, p, args, hlen, -, -, hs⟩ := attempt_cases backend sink step b
    · rw [hs]
      exact hoffer event _ _ hb
    -- nothing is put to the sink in the other cases
    all_goals
      rw [hs]
      exact hb
  rw [h] at hkept
  exact hkept

/-- A sink that collects the events has collected those that were put to it. -/
lemma sink_performAll_collect {steps : List Step} {b a : Progress σ (List Event)}
    (hb : b.sink = b.events) (h : performAll backend Sink.collect steps b = (none, a)) :
    a.sink = a.events := by
  refine events_invariant backend (P := fun t events => t = events) ?_ hb h
  rintro event _ events rfl
  rfl

/-- Steps add events and take none away. -/
lemma events_prefix_performAll {sink : Sink τ} {steps : List Step} {b a : Progress σ τ}
    (h : performAll backend sink steps b = (none, a)) : b.events <+: a.events := by
  refine events_invariant backend (P := fun _ events => b.events <+: events) ?_
    (List.prefix_refl _) h
  intro event _ events hevents
  exact hevents.trans (List.prefix_append _ _)

end Step

/-- The bytes of the report on a suite, if nothing stops it. -/
def Suite.reportBytes (backend : Backend σ) (format : Format) (suite : Suite) (s : σ) :
    List UInt8 :=
  (suite.run backend Sink.collect s []).sink.flatMap (Event.bytes format)

/-- A run of well-formed probes that collects the events: where it comes, and what is in its
report. -/
lemma Suite.exists_performAll_body {suite : Suite} (h : ∀ p ∈ suite.probes, p.WellFormed)
    (backend : Backend σ) (s : σ) :
    ∃ m, Step.performAll backend Sink.collect suite.body (.start s []) = (none, m) ∧
      (suite.run backend Sink.collect s []).result = .ok m.records ∧
      ∀ format, suite.reportBytes backend format s = m.events.flatMap (Event.bytes format) := by
  obtain ⟨m, hm⟩ := Step.exists_performAll_collect backend (Suite.wellFormed_body h) (.start s [])
  have hsink : m.sink = m.events := Step.sink_performAll_collect backend rfl hm
  have hrun : suite.run backend Sink.collect s []
      = ⟨.ok m.records, m.backend, m.sink ++ [.finish]⟩ := by
    rw [Suite.run_eq_performAll, Suite.plan, Step.performAll_append_of_none _ hm]
    rfl
  refine ⟨m, hm, by rw [hrun], fun format => ?_⟩
  simp [Suite.reportBytes, hrun, hsink]

/-- The report on well-formed probes is that of their records. -/
lemma Suite.exists_answered_reportBytes {suite : Suite} (h : ∀ p ∈ suite.probes, p.WellFormed)
    (backend : Backend σ) (s : σ) :
    ∃ records s', Answered backend suite.placed s records s' ∧
      ∀ format, suite.reportBytes backend format s
        = (suite.events records).flatMap (Event.bytes format) := by
  obtain ⟨m, -, hresult, -⟩ := Suite.exists_performAll_body h backend s
  obtain ⟨a, hrun, -, hsink⟩ := Suite.performAll_of_run hresult
  obtain ⟨-, hanswered, -⟩ := Suite.answered_of_performAll hrun
  refine ⟨a.records, a.backend, hanswered, fun format => ?_⟩
  rw [Suite.reportBytes, hsink, Step.sink_performAll_collect backend rfl hrun,
    Suite.events_of_performAll hrun]

/-! ## How long a report can be -/

namespace Text

/-- The number of bytes of a text. -/
def size (text : String) : ℕ := (bytes text).length

@[simp] lemma size_append (text rest : String) : size (text ++ rest) = size text + size rest := by
  simp [size]

lemma size_of_ascii {text : String} (h : ∀ c ∈ text.toList, c.utf8Size = 1) :
    size text = text.toList.length := by
  rw [size, bytes_eq_flatMap, List.length_flatMap]
  have hones : text.toList.map (fun c => (String.utf8EncodeChar c).length)
      = text.toList.map fun _ => 1 := by
    refine List.map_congr_left fun c hc => ?_
    rw [String.length_utf8EncodeChar, h c hc]
  rw [hones]
  simp

lemma utf8Size_of_isDigit {c : Char} (h : c.isDigit = true) : c.utf8Size = 1 := by
  rw [Char.isDigit_iff_toNat] at h
  have hle : c.val ≤ 127 := by
    rw [UInt32.le_iff_toNat_le]
    exact Nat.le_trans h.2 (by decide)
  simp [Char.utf8Size, hle]

/-- No word has a longer numeral than the least one. -/
lemma size_decimal_le (word : Int32) : size (decimal word) ≤ size (decimal Int32.minValue) := by
  have hleast : size (decimal Int32.minValue) = 11 := by decide +kernel
  have hascii : ∀ c ∈ (decimal word).toList, c.utf8Size = 1 := by
    intro c hc
    rcases mem_decimal hc with rfl | hdigit
    · rfl
    · exact utf8Size_of_isDigit hdigit
  have hlt : word.toInt.natAbs < 10 ^ 10 := by
    have hle := Int32.le_toInt word
    have hlt := Int32.toInt_lt word
    omega
  have hdigits := Nat.toDigits_length 10 word.toInt.natAbs 10 (by decide) hlt
  rw [hleast, size_of_ascii hascii, toList_decimal, List.length_append]
  split
  · simp only [List.length_singleton]
    omega
  · simp only [List.length_nil]
    omega

lemma size_intercalate_le (sep : String) {texts texts' : List String}
    (h : List.Forall₂ (fun a b => size a ≤ size b) texts texts') :
    size (sep.intercalate texts) ≤ size (sep.intercalate texts') := by
  induction h with
  | nil => exact Nat.le_refl _
  | cons hfirst hrest ih =>
    cases hrest with
    | nil =>
      rw [String.intercalate_singleton, String.intercalate_singleton]
      exact hfirst
    | cons _ _ =>
      rw [String.intercalate_cons_cons, String.intercalate_cons_cons]
      simp only [size_append] at ih ⊢
      omega

end Text

/-- The record with the longest numbers in the place of its values. -/
def Record.widest (r : Record) : Record :=
  { r with normal := r.normal.map fun _ => .minValue, compiled := .minValue }

/-- The event with the longest numbers. -/
def Event.widest : Event → Event
  | record r => record r.widest
  | event => event

namespace Record

open Text (size size_decimal_le)

lemma size_line_le (r : Record) : size r.line ≤ size r.widest.line := by
  have hcompiled := size_decimal_le r.compiled
  rcases hnormal : r.normal with _ | normal
  · cases hlayout : r.layout <;> simp [line, widest, hlayout, hnormal] <;> omega
  · have hvalue := size_decimal_le normal
    cases hlayout : r.layout <;> simp [line, widest, hlayout, hnormal] <;> omega

lemma size_json_le (r : Record) : size r.json ≤ size r.widest.json := by
  have hnormal : size (jsonMember "normal" (jsonOption Text.decimal r.normal))
      ≤ size (jsonMember "normal" (jsonOption Text.decimal r.widest.normal)) := by
    rcases hvalue : r.normal with _ | normal
    · simp [widest, hvalue]
    · simpa [widest, hvalue, jsonMember, jsonOption] using size_decimal_le normal
  have hcompiled : size (jsonMember "compiled" (Text.decimal r.compiled))
      ≤ size (jsonMember "compiled" (Text.decimal r.widest.compiled)) := by
    simpa [widest, jsonMember] using size_decimal_le r.compiled
  have hmembers : List.Forall₂ (fun a b => size a ≤ size b) r.jsonMembers r.widest.jsonMembers := by
    -- all members but these two are the same
    refine List.rel_append ?_ (.cons (Nat.le_refl _) (.cons (Nat.le_refl _)
      (.cons (Nat.le_refl _) (.cons hnormal (.cons (Nat.le_refl _) (.cons hcompiled .nil))))))
    exact List.forall₂_same.mpr fun _ _ => Nat.le_refl _
  have hjoined := Text.size_intercalate_le "," hmembers
  simp only [json, Text.size_append]
  omega

end Record

namespace Event

lemma length_bytes_le_widest (format : Format) (event : Event) :
    (event.bytes format).length ≤ (event.widest.bytes format).length := by
  cases event with
  | heading text => exact Nat.le_refl _
  | finish => exact Nat.le_refl _
  | record r =>
    have hline := r.size_line_le
    have hjson := r.size_json_le
    simp only [Text.size] at hline hjson
    cases format <;> simp [bytes, fragments, widest] <;> omega

lemma length_flatMap_bytes_le_widest (format : Format) (events : List Event) :
    (events.flatMap (bytes format)).length
      ≤ ((events.map widest).flatMap (bytes format)).length := by
  induction events with
  | nil => exact Nat.le_refl _
  | cons event events ih =>
    have hfirst := event.length_bytes_le_widest format
    simp only [List.map_cons, List.flatMap_cons, List.length_append]
    omega

end Event

lemma ProbeGroup.map_widest_events (g : ProbeGroup) (records : List Record) :
    (g.events records).map Event.widest = g.events (records.map Record.widest) := by
  rw [ProbeGroup.events, ProbeGroup.events]
  cases g.heading <;> simp [Event.widest, Function.comp_def]

lemma ProbeGroup.map_widest_eventsAll (groups : List ProbeGroup) (records : List Record) :
    (eventsAll groups records).map Event.widest = eventsAll groups (records.map Record.widest) := by
  induction groups generalizing records with
  | nil => rfl
  | cons g groups ih =>
    rw [eventsAll, eventsAll, List.map_append, map_widest_events, ih, List.map_take, List.map_drop]

lemma Suite.map_widest_events (suite : Suite) (records : List Record) :
    (suite.events records).map Event.widest = suite.events (records.map Record.widest) := by
  rw [Suite.events, Suite.events, List.map_append, ProbeGroup.map_widest_eventsAll]
  rfl

/-- The longest record of a probe, whatever the compiled side answers. -/
def Probe.widestRecord (under : Option String) (p : Probe) : Record :=
  (p.record under p.referenceValue? 0).widest

lemma Answered.map_widest {backend : Backend σ} {placed : List (Option String × Probe)} {s s' : σ}
    {records : List Record} (h : Answered backend placed s records s') :
    records.map Record.widest = placed.map fun entry => entry.2.widestRecord entry.1 := by
  induction h with
  | nil => rfl
  | literal _ _ _ ih => exact congrArg _ ih
  | call _ _ _ _ ih => exact congrArg _ ih

/-- The longest report on the standard suite is smaller than the buffer. -/
lemma Suite.length_widest_standard (format : Format) :
    ((Suite.standard.events (Suite.standard.placed.map
      fun entry => entry.2.widestRecord entry.1)).flatMap (Event.bytes format)).length
        < System.bufferSize := by
  cases format <;> decide +kernel

/-- The report on the standard suite fits into the buffer, whatever the backend answers. -/
lemma Suite.length_reportBytes_standard (backend : Backend σ) (format : Format) (s : σ) :
    (Suite.standard.reportBytes backend format s).length < System.bufferSize := by
  obtain ⟨records, s', hanswered, hbytes⟩ :=
    Suite.exists_answered_reportBytes Suite.wellFormed_standard backend s
  calc (Suite.standard.reportBytes backend format s).length
      = ((Suite.standard.events records).flatMap (Event.bytes format)).length := by rw [hbytes]
    _ ≤ (((Suite.standard.events records).map Event.widest).flatMap (Event.bytes format)).length :=
        Event.length_flatMap_bytes_le_widest format _
    _ < System.bufferSize := by
        rw [Suite.map_widest_events, hanswered.map_widest]
        exact Suite.length_widest_standard format

/-! ## A run into a buffer -/

/-- The same progress, with the events in a buffer instead of a list. -/
def Progress.inBuffer (format : Format) (t : ω) (b : Progress σ (List Event)) :
    Progress σ (List UInt8 × ω) :=
  ⟨b.backend, (b.events.flatMap (Event.bytes format), t), b.calls, b.events, b.records⟩

section Buffer

variable {backend : Backend σ} {w : Writer ω} {format : Format} {capacity : ℕ} {t : ω}

lemma Progress.offer_inBuffer {event : Event} (hevent : event ≠ .finish)
    {b : Progress σ (List Event)}
    (hsize : ((b.events ++ [event]).flatMap (Event.bytes format)).length < capacity) :
    (b.inBuffer format t).offer (Sink.report format (w.buffered capacity)) event
      = (none, (b.offer Sink.collect event).2.inBuffer format t) := by
  rw [List.flatMap_append, List.flatMap_singleton, List.length_append] at hsize
  have haccept : (Sink.report format (w.buffered capacity)).accept event (b.inBuffer format t).sink
      = (.ok (), b.events.flatMap (Event.bytes format) ++ event.bytes format, t) :=
    Sink.accept_report_buffered_of_fits hevent hsize
  rw [Progress.offer, haccept]
  simp [Progress.offer, Progress.inBuffer, failure?]

lemma Step.attempt_inBuffer {step : Step} (hstep : step ≠ finish) {b a : Progress σ (List Event)}
    (h : step.attempt backend Sink.collect b = (none, a))
    (hsize : (a.events.flatMap (Event.bytes format)).length < capacity) :
    step.attempt backend (Sink.report format (w.buffered capacity)) (b.inBuffer format t)
      = (none, a.inBuffer format t) := by
  cases step with
  | finish => exact absurd rfl hstep
  | heading text =>
    obtain ⟨-, rfl⟩ := Prod.mk.inj h
    exact Progress.offer_inBuffer (by simp) hsize
  | record =>
    have hrecords : (b.inBuffer format t).records = b.records := rfl
    rcases hlast : b.records.getLast? with _ | r <;>
      simp only [Step.attempt, hrecords, hlast] at h ⊢
    · obtain ⟨-, rfl⟩ := Prod.mk.inj h
      rfl
    · obtain ⟨-, rfl⟩ := Prod.mk.inj h
      exact Progress.offer_inBuffer (by simp) hsize
  | probe under p =>
    rcases p.cases with
      ⟨failure, hp⟩ | ⟨value, hp, hc⟩ | ⟨args, hlen, hp, hc⟩ | ⟨args, hlen, hp, hc⟩
    · rw [attempt_of_referenceFailure _ _ _ _ hp] at h
      cases congrArg Prod.fst h
    · rw [attempt_of_literal _ _ _ _ hp hc] at h ⊢
      obtain ⟨-, rfl⟩ := Prod.mk.inj h
      rfl
    · rw [attempt_of_call _ _ _ _ hp hc hlen] at h ⊢
      obtain ⟨-, rfl⟩ := Prod.mk.inj h
      rfl
    · rw [attempt_of_call_refused _ _ _ _ hp hc hlen] at h
      cases congrArg Prod.fst h

/-- As long as the events fit, a run into a buffer goes the way of a run that collects them. -/
lemma Step.performAll_inBuffer {steps : List Step} (hsteps : finish ∉ steps)
    {b a : Progress σ (List Event)} (h : performAll backend Sink.collect steps b = (none, a))
    (hsize : (a.events.flatMap (Event.bytes format)).length < capacity) :
    performAll backend (Sink.report format (w.buffered capacity)) steps (b.inBuffer format t)
      = (none, a.inBuffer format t) := by
  induction steps generalizing b with
  | nil =>
    obtain rfl : b = a := congrArg Prod.snd h
    rfl
  | cons step steps ih =>
    rw [List.mem_cons, not_or] at hsteps
    rcases hs : step.attempt backend Sink.collect b with ⟨_ | failure, m⟩
    · rw [performAll_cons_of_none hs] at h
      -- what fits in the end fits on the way
      obtain ⟨more, hmore⟩ := events_prefix_performAll backend h
      have hsize' : (m.events.flatMap (Event.bytes format)).length < capacity := by
        rw [← hmore, List.flatMap_append, List.length_append] at hsize
        omega
      rw [performAll_cons_of_none (attempt_inBuffer (Ne.symm hsteps.1) hs hsize')]
      exact ih hsteps.2 h
    · rw [performAll_cons_of_some hs] at h
      cases congrArg Prod.fst h

/-- A run into a buffer that the report fits in: everything is decided by the flush at its end. -/
lemma Suite.performAll_buffered {suite : Suite} (h : ∀ p ∈ suite.probes, p.WellFormed) {s : σ}
    (hsize : (suite.reportBytes backend format s).length < capacity) {flushed : Except String Unit}
    {rest : List UInt8 × ω}
    (hflush : (w.buffered capacity).flush (suite.reportBytes backend format s, t)
      = (flushed, rest)) :
    ∃ a : Progress σ (List UInt8 × ω),
      Step.performAll backend (Sink.report format (w.buffered capacity)) suite.plan
        (.start s ([], t)) = (failure? (flushed.mapError .output), a) ∧
      a.sink = rest ∧ (suite.run backend Sink.collect s []).result = .ok a.records := by
  obtain ⟨m, hbody, hresult, hbytes⟩ := Suite.exists_performAll_body h backend s
  rw [hbytes format] at hsize hflush
  have hbuffered : Step.performAll backend (Sink.report format (w.buffered capacity)) suite.body
      (.start s ([], t)) = (none, m.inBuffer format t) :=
    Step.performAll_inBuffer suite.finish_notMem_body hbody hsize
  have haccept : (Sink.report format (w.buffered capacity)).accept .finish
      (m.inBuffer format t).sink = (flushed.mapError .output, rest) := by
    have hwrite : Sink.write format (w.buffered capacity) .finish (m.inBuffer format t).sink
        = (flushed, rest) := hflush
    simp only [Sink.report, hwrite]
    rcases flushed with cause | ⟨⟩ <;> rfl
  refine ⟨((m.inBuffer format t).offer (Sink.report format (w.buffered capacity)) .finish).2,
    ?_, ?_, hresult⟩
  · rw [Suite.plan, Step.performAll_append_of_none _ hbuffered, Step.performAll_singleton,
      Step.attempt, Progress.offer, haccept]
  · rw [Progress.offer, haccept]

end Buffer

/-! ## The log beside it -/

/-- What the log is told about an event. -/
def Event.logLine? : Event → Option Log.Line
  | .record r => some (Log.probeFinished r)
  | _ => none

/-- The same progress, for a sink that tells the log. -/
def Progress.logged (log : List Log.Line) (b : Progress σ τ) : Progress σ (List Log.Line × τ) :=
  ⟨b.backend, (log ++ b.events.filterMap Event.logLine?, b.sink), b.calls, b.events, b.records⟩

lemma Step.translation_logged (backend : Backend σ) (sink : Sink τ) (log : List Log.Line) :
    Translation backend sink backend sink.logging (Progress.logged log) where
  records _ := rfl
  offer event b := by
    have hevents : (b.events ++ [event]).filterMap Event.logLine?
        = b.events.filterMap Event.logLine? ++ (Event.logLine? event).toList := by
      rw [List.filterMap_append]
      cases event <;> rfl
    simp only [Progress.offer, Progress.logged, Sink.logging, Prod.map_apply, id_eq, hevents,
      Prod.mk.injEq, Progress.mk.injEq, true_and, and_true]
    cases event <;> simp [Event.logLine?]
  noted _ _ := rfl
  value _ _ _ := rfl
  answered _ _ _ _ := rfl

/-- **A report in one piece.**  What becomes of a report is decided when all of it is handed to its
destination at once. -/
theorem Program.yields_report (system : System ω) {w : Writer ω} {format : Format}
    {backend : Backend Unit} {s t : ω} {delivered : Except String Unit}
    (h : w.deliver (Suite.standard.reportBytes backend format ()) s = (delivered, t)) :
    ∃ records, (Suite.standard.run backend Sink.collect () []).result = .ok records ∧
      Yields (system.surroundings.report w format backend) s
        ((delivered.mapError Failure.output).map fun _ => records) t := by
  rcases hflush : (w.buffered System.bufferSize).flush
    (Suite.standard.reportBytes backend format (), s) with ⟨flushed, rest⟩
  obtain ⟨a, hrun, hsink, hresult⟩ := Suite.performAll_buffered Suite.wellFormed_standard
    (Suite.length_reportBytes_standard backend format ()) hflush
  have hdeliver := w.flush_buffered_release System.bufferSize
    (Suite.standard.reportBytes backend format ()) s
  rw [hflush, h] at hdeliver
  obtain ⟨rfl, rfl⟩ := Prod.mk.inj hdeliver
  refine ⟨a.records, hresult, fun log => ?_⟩
  have hlogged : Suite.standard.run backend
      (Sink.report format (w.buffered System.bufferSize)).logging () (log, [], s)
        = Progress.outcome (failure? (flushed.mapError .output), a.logged log) := by
    have htranslated := (Step.translation_logged backend
      (Sink.report format (w.buffered System.bufferSize)) log).performAll Suite.standard.plan
        (.start () ([], s))
    rw [hrun] at htranslated
    have hstart : (Progress.start () (([] : List UInt8), s)).logged log
        = .start () (log, [], s) := by
      simp [Progress.logged, Progress.start]
    rw [hstart] at htranslated
    rw [Suite.run_eq_performAll, htranslated]
    rfl
  have hreport : (system.surroundings.report w format backend).run ⟨log, s⟩
      = let outcome := Suite.standard.run backend
          (Sink.report format (w.buffered System.bufferSize)).logging () (log, [], s)
        (outcome.result, ⟨outcome.sink.1, w.release outcome.sink.2⟩) := rfl
  refine ⟨(a.logged log).sink.1, ?_⟩
  rw [hreport, hlogged, ← hsink]
  rcases flushed with cause | ⟨⟩ <;> rfl

end Conformance
