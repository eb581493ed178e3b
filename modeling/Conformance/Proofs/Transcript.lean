/-
# What a transcript tells

The report of a run that succeeds is determined by the suite and the records: `Suite.events` is the
sequence of events, and `Suite.held_of_run` says that the writer holds just their bytes, whatever
kind of writer it is.

Conversely, the text of a report determines the records, although a label or a heading may be any
text, and a number may stand next to it with nothing between them.  It takes the suite to see this.
Two runs of one suite can differ in nothing but the values of the compiled side.  At the first value
that differs everything before it is the same, so the two numbers begin at the same place, and since
each is followed by the end of its line they cannot be the beginning of one another.  This is
`Event.eq_of_texts_eq`; the main result is `Suite.transcript_eq_iff`.
-/
import Conformance.Proofs.Encoding
import Conformance.Proofs.Numerals
import Conformance.Proofs.Records
import Conformance.Proofs.Truncation
import Mathlib.Data.List.Forall2

namespace Conformance

open Writer (Held)

/-! ## The events of a run -/

/-- The events of groups whose probes have these records. -/
def ProbeGroup.eventsAll : List ProbeGroup → List Record → List Event
  | [], _ => []
  | g :: groups, records =>
    g.events (records.take g.probes.length) ++ eventsAll groups (records.drop g.probes.length)

/-- The events of a suite whose probes have these records. -/
def Suite.events (suite : Suite) (records : List Record) : List Event :=
  ProbeGroup.eventsAll suite.groups records ++ [.finish]

lemma ProbeGroup.flatten_zipWith_events {groups : List ProbeGroup} {parts : List (List Record)}
    (h : parts.map List.length = groups.map (·.probes.length)) :
    (List.zipWith ProbeGroup.events groups parts).flatten = eventsAll groups parts.flatten := by
  induction groups generalizing parts with
  | nil => simp [eventsAll]
  | cons g groups ih =>
    cases parts with
    | nil => cases h
    | cons records parts =>
      simp only [List.map_cons, List.cons.injEq] at h
      obtain ⟨hlen, hrest⟩ := h
      rw [List.zipWith_cons_cons, List.flatten_cons, List.flatten_cons, eventsAll, ← hlen,
        List.take_left, List.drop_left, ih hrest]

/-- The events of a run that ends well are those of its records. -/
lemma Suite.events_of_performAll {σ τ : Type} {backend : Backend σ} {sink : Sink τ} {suite : Suite}
    {s : σ} {t : τ} {a : Progress σ τ}
    (h : Step.performAll backend sink suite.plan (.start s t) = (none, a)) :
    a.events = suite.events a.records := by
  obtain ⟨parts, -, hflat, hlengths, hevents⟩ := Suite.answered_of_performAll h
  rw [hevents, ProbeGroup.flatten_zipWith_events hlengths, hflat]
  rfl

section Writing

variable {σ ω : Type} {w : Writer ω} {held : ω → List UInt8} {backend : Backend σ} {format : Format}

lemma Step.held_attempt (hw : w.Holds held) {step : Step} {b a : Progress σ ω}
    (h : step.attempt backend (Sink.report format w) b = (none, a)) :
    ∃ events, a.events = b.events ++ events ∧
      held a.sink = held b.sink ++ events.flatMap (Event.bytes format) := by
  obtain ⟨event, -, hs⟩ | ⟨-, hs⟩ | ⟨under, p, failure, -, hs⟩ | ⟨under, p, value, -, -, hs⟩ |
    ⟨under, p, args, hlen, -, -, hs⟩ := attempt_cases backend (Sink.report format w) step b
  · rw [hs] at h
    obtain ⟨hnone, rfl⟩ := Prod.mk.inj h
    rcases haccept : (Sink.report format w).accept event b.sink with ⟨_ | ⟨⟩, t⟩
    · rw [haccept] at hnone
      cases hnone
    · have hheld := Sink.accept_report_of_ok format hw haccept
      exact ⟨[event], rfl, by simpa using hheld⟩
  · obtain ⟨-, rfl⟩ := Prod.mk.inj (hs.symm.trans h)
    exact ⟨[], by simp, by simp⟩
  · cases congrArg Prod.fst (hs.symm.trans h)
  all_goals
    -- a probe that was asked puts nothing to the sink
    obtain ⟨-, rfl⟩ := Prod.mk.inj (hs.symm.trans h)
    refine ⟨[], ?_, ?_⟩ <;> simp [Progress.noted, Progress.answered]

lemma Step.held_performAll (hw : w.Holds held) {steps : List Step} {b a : Progress σ ω}
    (h : performAll backend (Sink.report format w) steps b = (none, a)) :
    ∃ events, a.events = b.events ++ events ∧
      held a.sink = held b.sink ++ events.flatMap (Event.bytes format) := by
  induction steps generalizing b with
  | nil =>
    obtain rfl : b = a := congrArg Prod.snd h
    exact ⟨[], by simp, by simp⟩
  | cons step steps ih =>
    rcases hs : step.attempt backend (Sink.report format w) b with ⟨_ | failure, m⟩
    · rw [performAll_cons_of_none hs] at h
      obtain ⟨events, hevents, hheld⟩ := held_attempt hw hs
      obtain ⟨events', hevents', hheld'⟩ := ih h
      refine ⟨events ++ events', ?_, ?_⟩
      · rw [hevents', hevents, List.append_assoc]
      · rw [hheld', hheld, List.flatMap_append, List.append_assoc]
    · rw [performAll_cons_of_some hs] at h
      cases congrArg Prod.fst h

/-- What a run that succeeds has written, whatever the writer. -/
lemma Suite.held_of_run (hw : w.Holds held) {suite : Suite} {s : σ} {t : ω} {records : List Record}
    (h : (suite.run backend (Sink.report format w) s t).result = .ok records) :
    held (suite.run backend (Sink.report format w) s t).sink
      = held t ++ (suite.events records).flatMap (Event.bytes format) := by
  obtain ⟨a, hrun, rfl, hsink⟩ := Suite.performAll_of_run h
  obtain ⟨events, hevents, hheld⟩ := Step.held_performAll hw hrun
  have hstart : a.events = events := hevents
  rw [hsink, hheld, ← hstart, Suite.events_of_performAll hrun]
  rfl

lemma Suite.bytes_of_run {view : ω → Held} {limit : Option ℕ} {flushed : Held → Except String Unit}
    (hw : w.Keeps view limit flushed) {suite : Suite} {s : σ} {t : ω} {records : List Record}
    (h : (suite.run backend (Sink.report format w) s t).result = .ok records) :
    (view (suite.run backend (Sink.report format w) s t).sink).bytes
      = (view t).bytes ++ (suite.events records).flatMap (Event.bytes format) :=
  Suite.held_of_run hw.holds h

end Writing

/-! ## Two runs of one suite -/

/-- Two records that can differ in nothing but the value of the compiled side. -/
def Record.Alike (r r' : Record) : Prop := r' = { r with compiled := r'.compiled }

/-- Two events that are the same up to the values of the compiled side. -/
inductive Event.Alike : Event → Event → Prop
  | heading (text : String) : Alike (.heading text) (.heading text)
  | record {r r' : Record} (h : r.Alike r') : Alike (.record r) (.record r')
  | finish : Alike .finish .finish

/-- The record that an event reports. -/
def Event.record? : Event → Option Record
  | record r => some r
  | _ => none

section Alike

variable {σ₁ σ₂ : Type} {backend₁ : Backend σ₁} {backend₂ : Backend σ₂}

/-- The same probes have alike records, whatever the backends answer. -/
lemma Answered.alike {placed : List (Option String × Probe)} {s₁ s₁' : σ₁} {s₂ s₂' : σ₂}
    {records₁ records₂ : List Record} (h₁ : Answered backend₁ placed s₁ records₁ s₁')
    (h₂ : Answered backend₂ placed s₂ records₂ s₂') :
    List.Forall₂ Record.Alike records₁ records₂ := by
  induction h₁ generalizing s₂ records₂ with
  | nil =>
    cases h₂
    exact .nil
  | literal hp hc _ ih =>
    cases h₂ with
    | literal hp' hc' h => exact .cons rfl (ih h)
    | call hp' hc' hlen h => cases hc.symm.trans hc'
  | call hp hc hlen _ ih =>
    cases h₂ with
    | literal hp' hc' h => cases hc.symm.trans hc'
    | call hp' hc' hlen' h => exact .cons rfl (ih h)

lemma ProbeGroup.events_alike (g : ProbeGroup) {records records' : List Record}
    (h : List.Forall₂ Record.Alike records records') :
    List.Forall₂ Event.Alike (g.events records) (g.events records') := by
  have hrecords : List.Forall₂ Event.Alike (records.map .record) (records'.map .record) := by
    rw [List.forall₂_map_left_iff, List.forall₂_map_right_iff]
    exact h.imp fun _ _ => .record
  rw [ProbeGroup.events, ProbeGroup.events]
  cases g.heading with
  | none => exact hrecords
  | some text => exact .cons (.heading text) hrecords

lemma ProbeGroup.eventsAll_alike (groups : List ProbeGroup) {records records' : List Record}
    (h : List.Forall₂ Record.Alike records records') :
    List.Forall₂ Event.Alike (eventsAll groups records) (eventsAll groups records') := by
  induction groups generalizing records records' with
  | nil => exact .nil
  | cons g groups ih =>
    exact List.rel_append (g.events_alike (List.forall₂_take _ h)) (ih (List.forall₂_drop _ h))

end Alike

/-! ## Reading a transcript -/

/-- The line of a record up to the value of the compiled side. -/
def Record.stem (r : Record) : String :=
  match r.layout, r.normal with
  | .comparison, some normal => r.label ++ "\t normal: " ++ Text.decimal normal ++ "\tcompiled:"
  | .comparison, none => r.label ++ "\tcompiled:"
  | .tagged, _ => r.label ++ "\tcompiled:"
  | .bare, _ => r.label

/-- The value of the compiled side ends the line in every layout. -/
lemma Record.line_eq (r : Record) : r.line = r.stem ++ Text.decimal r.compiled := by
  cases hlayout : r.layout <;> cases hnormal : r.normal <;>
    simp only [Record.line, Record.stem, hlayout, hnormal]

lemma Record.Alike.stem_eq {r r' : Record} (h : r.Alike r') : r'.stem = r.stem := by
  rw [h]
  rfl

lemma Record.Alike.eq {r r' : Record} (h : r.Alike r') (hcompiled : r.compiled = r'.compiled) :
    r = r' := by
  rw [h, ← hcompiled]

/-- The text that an event puts into the report. -/
def Event.text (format : Format) (event : Event) : String := String.join (event.fragments format)

lemma Event.text_record (r : Record) :
    (record r).text .text = r.stem ++ Text.decimal r.compiled ++ "\n" := by
  rw [Event.text, Event.fragments, String.join_cons, String.join_cons, String.join_nil,
    String.append_empty, r.line_eq]

/-- The bytes of events are those of their text. -/
lemma flatMap_eventBytes (format : Format) (events : List Event) :
    events.flatMap (Event.bytes format)
      = Text.bytes (String.join (events.map (Event.text format))) := by
  induction events with
  | nil => rfl
  | cons event events ih =>
    rw [List.flatMap_cons, ih, List.map_cons, String.join_cons, Text.bytes_append, Event.bytes,
      Text.flatMap_bytes, Event.text]

/-- Events that are alike and have the same text are the same. -/
lemma Event.eq_of_texts_eq {events events' : List Event} (h : List.Forall₂ Alike events events')
    (htext : String.join (events.map (text .text)) = String.join (events'.map (text .text))) :
    events = events' := by
  induction h with
  | nil => rfl
  | @cons event event' events events' halike _ ih =>
    rw [List.map_cons, List.map_cons, String.join_cons, String.join_cons] at htext
    cases halike with
    | heading text => rw [ih ((String.append_right_inj _).mp htext)]
    | finish => rw [ih ((String.append_right_inj _).mp htext)]
    | @record r r' halike =>
      -- the stems are the same, and each number ends where its line ends
      rw [text_record, text_record, halike.stem_eq] at htext
      have hchars := congrArg String.toList htext
      have hnewline : "\n".toList = ['\n'] := rfl
      simp only [String.toList_append, hnewline, List.append_assoc, List.cons_append,
        List.nil_append, List.append_cancel_left_eq] at hchars
      obtain ⟨hvalue, hrest⟩ := Text.decimal_append_inj (Text.noDigitNext_cons (by decide))
        (Text.noDigitNext_cons (by decide)) hchars
      rw [halike.eq hvalue, ih (String.toList_inj.mp (List.cons.inj hrest).2)]

/-! ## Transcripts and records -/

lemma ProbeGroup.filterMap_record?_events (g : ProbeGroup) (records : List Record) :
    (g.events records).filterMap Event.record? = records := by
  have hrecords : (records.map Event.record).filterMap Event.record? = records := by
    rw [List.filterMap_map]
    exact List.filterMap_some
  rw [ProbeGroup.events, List.filterMap_append, hrecords]
  cases g.heading <;> rfl

lemma ProbeGroup.filterMap_record?_eventsAll {groups : List ProbeGroup} {records : List Record}
    (h : records.length = (groups.flatMap (·.probes)).length) :
    (eventsAll groups records).filterMap Event.record? = records := by
  induction groups generalizing records with
  | nil => rw [List.eq_nil_of_length_eq_zero h, eventsAll, List.filterMap_nil]
  | cons g groups ih =>
    rw [List.flatMap_cons, List.length_append] at h
    have hrest : (records.drop g.probes.length).length = (groups.flatMap (·.probes)).length := by
      rw [List.length_drop]
      omega
    rw [eventsAll, List.filterMap_append, g.filterMap_record?_events, ih hrest,
      List.take_append_drop]

/-- The records can be read off the events of a run. -/
lemma Suite.filterMap_record?_events {suite : Suite} {records : List Record}
    (h : records.length = suite.probes.length) :
    (suite.events records).filterMap Event.record? = records := by
  have hfinish : [Event.finish].filterMap Event.record? = [] := rfl
  rw [Suite.events, List.filterMap_append, ProbeGroup.filterMap_record?_eventsAll h, hfinish,
    List.append_nil]

/-- **A transcript loses no result.**  Let a suite with any headings and labels be run with two
backends, each time as text into a writer without a limit, and let both runs succeed.  The writers
hold the same bytes exactly if the records of the two runs are the same. -/
theorem Suite.transcript_eq_iff {σ₁ σ₂ ω : Type} {w : Writer ω} {view : ω → Held}
    {flushed : Held → Except String Unit} (hw : w.Keeps view none flushed) (suite : Suite)
    (backend₁ : Backend σ₁) (backend₂ : Backend σ₂) (s₁ : σ₁) (s₂ : σ₂) (t : ω)
    {records₁ records₂ : List Record}
    (h₁ : (suite.run backend₁ (Sink.report .text w) s₁ t).result = .ok records₁)
    (h₂ : (suite.run backend₂ (Sink.report .text w) s₂ t).result = .ok records₂) :
    (view (suite.run backend₁ (Sink.report .text w) s₁ t).sink).bytes
        = (view (suite.run backend₂ (Sink.report .text w) s₂ t).sink).bytes ↔
      records₁ = records₂ := by
  obtain ⟨s₁', hanswered₁⟩ := Suite.answered_of_run h₁
  obtain ⟨s₂', hanswered₂⟩ := Suite.answered_of_run h₂
  have hlength₁ : records₁.length = suite.probes.length := by
    rw [Suite.length_of_run h₁, suite.length_probes]
  have hlength₂ : records₂.length = suite.probes.length := by
    rw [Suite.length_of_run h₂, suite.length_probes]
  have halike : List.Forall₂ Event.Alike (suite.events records₁) (suite.events records₂) :=
    List.rel_append (ProbeGroup.eventsAll_alike _ (hanswered₁.alike hanswered₂))
      (.cons .finish .nil)
  rw [Suite.bytes_of_run hw h₁, Suite.bytes_of_run hw h₂, List.append_cancel_left_eq]
  constructor
  · intro hbytes
    rw [flatMap_eventBytes, flatMap_eventBytes] at hbytes
    have hevents : suite.events records₁ = suite.events records₂ :=
      Event.eq_of_texts_eq halike (Text.bytes_injective hbytes)
    rw [← Suite.filterMap_record?_events hlength₁, hevents,
      Suite.filterMap_record?_events hlength₂]
  · rintro rfl
    rfl

/-- A suite whose numbers stand right behind the digits of their labels, and whose heading and
second label have line breaks in them. -/
def Suite.gluedNumbers : Suite :=
  ⟨[⟨some "4\n2", [.observe .even "n = 1" [4] .bare, .observe .odd "\n2" [4] .bare]⟩]⟩

/-- In both transcripts the same digits follow one another; only the line breaks tell them apart. -/
theorem Suite.transcript_eq_iff_gluedNumbers :
    ∃ records₁ records₂ : List Record,
      (Suite.gluedNumbers.run (Backend.scripted "scripted" [2, 22])
        (Sink.report .text (Writer.bounded ⟨none, .refuse, false⟩)) 0 {}).result = .ok records₁ ∧
      (Suite.gluedNumbers.run (Backend.scripted "scripted" [22, 2])
        (Sink.report .text (Writer.bounded ⟨none, .refuse, false⟩)) 0 {}).result = .ok records₂ ∧
      records₁ ≠ records₂ ∧
      (Suite.gluedNumbers.run (Backend.scripted "scripted" [2, 22])
          (Sink.report .text (Writer.bounded ⟨none, .refuse, false⟩)) 0 {}).sink.bytes
        ≠ (Suite.gluedNumbers.run (Backend.scripted "scripted" [22, 2])
          (Sink.report .text (Writer.bounded ⟨none, .refuse, false⟩)) 0 {}).sink.bytes := by
  have h₁ : (Suite.gluedNumbers.run (Backend.scripted "scripted" [2, 22])
      (Sink.report .text (Writer.bounded ⟨none, .refuse, false⟩)) 0 {}).result = .ok [
        ⟨some "4\n2", "even", "n = 1", none, none, some [4], 2, .bare⟩,
        ⟨some "4\n2", "odd", "\n2", none, none, some [4], 22, .bare⟩] := by
    decide +kernel
  have h₂ : (Suite.gluedNumbers.run (Backend.scripted "scripted" [22, 2])
      (Sink.report .text (Writer.bounded ⟨none, .refuse, false⟩)) 0 {}).result = .ok [
        ⟨some "4\n2", "even", "n = 1", none, none, some [4], 22, .bare⟩,
        ⟨some "4\n2", "odd", "\n2", none, none, some [4], 2, .bare⟩] := by
    decide +kernel
  refine ⟨_, _, h₁, h₂, by decide, fun hbytes => ?_⟩
  have heq := (Suite.transcript_eq_iff (Writer.keeps_bounded ⟨none, .refuse, false⟩)
    Suite.gluedNumbers _ _ 0 0 {} h₁ h₂).mp hbytes
  exact absurd heq (by decide)

end Conformance
