/-
# Going on after a refusal

A sink keeps no memory of its failures: an event can be put to it after another one was refused.
For a sink that reports to a writer with a limit this makes no mess of the report.  An event that
does not fit is written as far as there is room, and that fills the writer up, so that everything
after it finds no room at all.  What the writer holds is therefore the beginning of all that was put
to the sink, whether it was accepted or not.

`Sink.attempted` is what the writer holds by this account.  One event keeps it (`accept_attempted`),
and so do events in a row (`acceptAll_attempted`).  The main result is
`Sink.acceptAll_report_limited`.
-/
import Conformance.Proofs.Writing

namespace Conformance

open Writer (Held)

namespace Sink

/-! ## Events in a row -/

section Row

variable {τ : Type} (sink : Sink τ)

/-- The result in each position is that of the event there, in the state that the events before it
leave. -/
lemma getElem?_acceptAll (events : List Event) (t : τ) (i : ℕ) :
    (sink.acceptAll events t).1[i]?
      = events[i]?.map fun event => (sink.accept event (sink.acceptAll (events.take i) t).2).1 := by
  induction events generalizing t i with
  | nil => rfl
  | cons event events ih =>
    cases i with
    | zero => rfl
    | succ i => exact ih (sink.accept event t).2 i

lemma length_acceptAll (events : List Event) (t : τ) :
    (sink.acceptAll events t).1.length = events.length := by
  induction events generalizing t with
  | nil => rfl
  | cons event events ih => exact congrArg (· + 1) (ih (sink.accept event t).2)

end Row

/-! ## A writer with a limit -/

/-- What a writer with the limit `n` holds after events were put to the sink, some of them perhaps
in vain: as much of them as the limit allows.  The end of a report is a flush. -/
def attempted (format : Format) (n : ℕ) (events : List Event) : Held :=
  ⟨(events.flatMap (Event.bytes format)).take n, events.count .finish⟩

section Limited

variable {ω : Type} {w : Writer ω} {view : ω → Held} {n : ℕ}
  {flushed : Held → Except String Unit} {format : Format}

lemma length_attempted (events : List Event) :
    (attempted format n events).bytes.length
      = min n (events.flatMap (Event.bytes format)).length :=
  List.length_take

lemma attempted_concat_finish (events : List Event) :
    attempted format n (events ++ [.finish])
      = { attempted format n events with
          flushes := (attempted format n events).flushes + 1 } := by
  simp [attempted, List.flatMap_append]

/-- The rest of the limit is what an event can use of it. -/
lemma attempted_concat (events : List Event) {event : Event} (hevent : event ≠ .finish) :
    attempted format n (events ++ [event])
      = (attempted format n events).add
          ((event.bytes format).take (n - (attempted format n events).bytes.length)) := by
  have hcount : (events ++ [event]).count .finish = events.count .finish := by
    simp [List.count_append, hevent]
  have hroom : n - min n (events.flatMap (Event.bytes format)).length
      = n - (events.flatMap (Event.bytes format)).length := by omega
  simp only [attempted, Held.add, hcount, List.flatMap_append, List.flatMap_singleton,
    List.take_append, List.length_take, hroom]

/-- What becomes of one event that is not the end of a report, after others. -/
lemma accept_attempted (hw : w.Keeps view (some n) flushed) {before : List Event} {t : ω}
    (ht : view t = attempted format n before) {event : Event} (hevent : event ≠ .finish) :
    ∃ (result : Except Failure Unit) (t' : ω), (report format w).accept event t = (result, t') ∧
      view t' = attempted format n (before ++ [event]) ∧
      (result = .ok () ↔ event.bytes format = [] ∨
        ((before ++ [event]).flatMap (Event.bytes format)).length ≤ n) ∧
      (result ≠ .ok () → ∃ cause, result = .error (.output cause)) := by
  have hheld : (view t).bytes.length = min n (before.flatMap (Event.bytes format)).length := by
    rw [ht, length_attempted]
  have hgrown : attempted format n (before ++ [event])
      = (view t).add ((event.bytes format).take (n - (view t).bytes.length)) := by
    rw [ht, attempted_concat before hevent]
  have htotal : ((before ++ [event]).flatMap (Event.bytes format)).length
      = (before.flatMap (Event.bytes format)).length + (event.bytes format).length := by
    simp [List.flatMap_append]
  by_cases hroom : (view t).bytes.length + (event.bytes format).length ≤ n
  · -- there is room: nothing is left to write, or nothing was cut off before
    obtain ⟨t', haccept, hview⟩ :=
      accept_report_of_fits format hw hevent t (fits_some.mpr hroom)
    refine ⟨.ok (), t', haccept, ?_, ?_, fun h => absurd rfl h⟩
    · rw [hview, hgrown, List.take_of_length_le (by omega)]
    · simp only [true_iff, htotal]
      by_cases hempty : event.bytes format = []
      · exact .inl hempty
      · have hpos := List.length_pos_iff.mpr hempty
        right
        omega
  · have hover : n < (view t).bytes.length + (event.bytes format).length := by omega
    obtain ⟨cause, t', haccept, hview⟩ :=
      accept_report_of_exceeds format hw t (by omega) hover
    refine ⟨.error (.output cause), t', haccept, hview.trans hgrown.symm, ?_,
      fun _ => ⟨cause, rfl⟩⟩
    simp only [reduceCtorEq, false_iff, not_or, htotal]
    constructor
    · intro hempty
      rw [hempty, List.length_nil] at hroom
      omega
    · omega

/-- The end of a report flushes, after whatever events. -/
lemma accept_finish_attempted (hw : w.Keeps view (some n) flushed) {before : List Event} {t : ω}
    (ht : view t = attempted format n before) :
    ((report format w).accept .finish t).1 = (w.flush t).1.mapError .output ∧
      view ((report format w).accept .finish t).2 = attempted format n (before ++ [.finish]) := by
  obtain ⟨t', haccept, hview⟩ := accept_report_finish format hw t
  obtain ⟨t₁, hflush, -⟩ := hw.flush t
  rw [haccept, hflush]
  refine ⟨rfl, ?_⟩
  rw [hview, ht, attempted_concat_finish]

/-- Events in a row, on top of others. -/
lemma acceptAll_attempted (hw : w.Keeps view (some n) flushed) (events : List Event)
    {before : List Event} {t : ω} (ht : view t = attempted format n before) :
    view ((report format w).acceptAll events t).2 = attempted format n (before ++ events) := by
  induction events generalizing before t with
  | nil =>
    rw [List.append_nil]
    exact ht
  | cons event events ih =>
    have hstep : view ((report format w).accept event t).2
        = attempted format n (before ++ [event]) := by
      by_cases hevent : event = .finish
      · subst hevent
        exact (accept_finish_attempted hw ht).2
      · obtain ⟨result, t', haccept, hview, -⟩ := accept_attempted hw ht hevent
        rw [haccept]
        exact hview
    have hrest := ih hstep
    rw [List.append_assoc, List.singleton_append] at hrest
    exact hrest

/-! ## Events by their positions -/

section Positions

variable {events : List Event} {event : Event} {t : ω} {i : ℕ}

lemma take_succ_of_getElem? (h : events[i]? = some event) :
    events.take (i + 1) = events.take i ++ [event] := by
  rw [List.take_add_one, h, Option.toList_some]

lemma length_flatMap_take_mono {j : ℕ} (h : i ≤ j) :
    ((events.take i).flatMap (Event.bytes format)).length
      ≤ ((events.take j).flatMap (Event.bytes format)).length := by
  obtain ⟨more, hmore⟩ := List.take_prefix_take_left (l := events) h
  rw [← hmore, List.flatMap_append, List.length_append]
  exact Nat.le_add_right _ _

/-- Once the limit is passed, nothing that follows changes what is held. -/
lemma bytes_attempted_of_exceeds {j : ℕ} (h : i ≤ j)
    (hover : n < ((events.take i).flatMap (Event.bytes format)).length) :
    (attempted format n (events.take j)).bytes = (attempted format n (events.take i)).bytes := by
  obtain ⟨more, hmore⟩ := List.take_prefix_take_left (l := events) h
  simp only [attempted, ← hmore, List.flatMap_append]
  rw [List.take_append_of_le_length (Nat.le_of_lt hover)]

lemma view_acceptAll_take (hw : w.Keeps view (some n) flushed) (ht : view t = {})
    (events : List Event) (i : ℕ) :
    view ((report format w).acceptAll (events.take i) t).2
      = attempted format n (events.take i) := by
  have hempty : view t = attempted format n [] := by simpa [attempted] using ht
  exact acceptAll_attempted hw (events.take i) hempty

/-- A heading or a record in its position: the bytes of everything before it count, also of what was
refused. -/
lemma getElem?_results_of_ne_finish (hw : w.Keeps view (some n) flushed) (ht : view t = {})
    (hi : events[i]? = some event) (hevent : event ≠ .finish) :
    ∃ result, ((report format w).acceptAll events t).1[i]? = some result ∧
      (result = .ok () ↔ event.bytes format = [] ∨
        ((events.take (i + 1)).flatMap (Event.bytes format)).length ≤ n) ∧
      (result ≠ .ok () → ∃ cause, result = .error (.output cause)) := by
  obtain ⟨result, t', haccept, -, hok, herror⟩ :=
    accept_attempted hw (view_acceptAll_take hw ht events i) hevent
  refine ⟨result, ?_, ?_, herror⟩
  · rw [getElem?_acceptAll, hi, Option.map_some, haccept]
  · rw [take_succ_of_getElem? hi]
    exact hok

/-- An end of the report in its position. -/
lemma getElem?_results_of_finish (hw : w.Keeps view (some n) flushed) (ht : view t = {})
    (hi : events[i]? = some .finish) :
    ((report format w).acceptAll events t).1[i]?
      = some ((w.flush ((report format w).acceptAll (events.take i) t).2).1.mapError .output) := by
  rw [getElem?_acceptAll, hi, Option.map_some,
    (accept_finish_attempted hw (view_acceptAll_take hw ht events i)).1]

lemma ne_finish_of_bytes (h : event.bytes format ≠ []) : event ≠ .finish := by
  rintro rfl
  exact h (Event.bytes_finish format)

/-- Where an event with bytes to write was refused, the limit is passed. -/
lemma limit_lt_of_refused (hw : w.Keeps view (some n) flushed) (ht : view t = {})
    (hi : events[i]? = some event) (hbytes : event.bytes format ≠ [])
    (hrefused : ((report format w).acceptAll events t).1[i]? ≠ some (.ok ())) :
    n < ((events.take (i + 1)).flatMap (Event.bytes format)).length := by
  obtain ⟨result, hresult, hok, -⟩ :=
    getElem?_results_of_ne_finish hw ht hi (ne_finish_of_bytes hbytes)
  by_contra hle
  rw [hok.mpr (.inr (Nat.not_lt.mp hle))] at hresult
  exact hrefused hresult

/-- Past the limit every event with bytes to write is refused. -/
lemma getElem?_results_of_limit_lt (hw : w.Keeps view (some n) flushed) (ht : view t = {})
    (hi : events[i]? = some event) (hbytes : event.bytes format ≠ [])
    (hover : n < ((events.take (i + 1)).flatMap (Event.bytes format)).length) :
    ∃ cause, ((report format w).acceptAll events t).1[i]? = some (.error (.output cause)) := by
  obtain ⟨result, hresult, hok, herror⟩ :=
    getElem?_results_of_ne_finish hw ht hi (ne_finish_of_bytes hbytes)
  have hfailed : result ≠ .ok () := by
    intro h
    rcases hok.mp h with hnil | hle
    · exact hbytes hnil
    · omega
  obtain ⟨cause, rfl⟩ := herror hfailed
  exact ⟨cause, hresult⟩

end Positions

/-- **A limited report is the beginning of all that was put to the sink, also past a refusal.**  Put
any events to a sink that reports, in either format, to an empty writer that holds no more than `n`
bytes, and go on after failures.  In the end the writer holds the first `n` bytes of everything the
events render to.  A heading or a record is accepted exactly if it renders to nothing or the bytes
up to and including its own are no more than `n`, and fails at the output otherwise.  Each end of a
report flushes once, and its result is that of the flush, whatever failed before.  After an event
with bytes to write was refused, every later event with bytes to write is refused and leaves what is
held as it is. -/
theorem acceptAll_report_limited (hw : w.Keeps view (some n) flushed) (format : Format)
    (events : List Event) {t : ω} (ht : view t = {}) :
    let sink := report format w
    let results := (sink.acceptAll events t).1
    let state := fun i => (sink.acceptAll (events.take i) t).2
    (view (sink.acceptAll events t).2).bytes = (events.flatMap (Event.bytes format)).take n ∧
    (view (sink.acceptAll events t).2).flushes = events.count .finish ∧
    results.length = events.length ∧
    (∀ (i : ℕ) (event : Event), events[i]? = some event → event ≠ .finish →
      ∃ result, results[i]? = some result ∧
        (result = .ok () ↔ event.bytes format = [] ∨
          ((events.take (i + 1)).flatMap (Event.bytes format)).length ≤ n) ∧
        (result ≠ .ok () → ∃ cause, result = .error (.output cause))) ∧
    (∀ i : ℕ, events[i]? = some .finish →
      results[i]? = some ((w.flush (state i)).1.mapError .output) ∧
      view (state (i + 1)) = { view (state i) with flushes := (view (state i)).flushes + 1 }) ∧
    ∀ (i j : ℕ) (event later : Event), i < j →
      events[i]? = some event → event.bytes format ≠ [] → results[i]? ≠ some (.ok ()) →
      events[j]? = some later → later.bytes format ≠ [] →
      (∃ cause, results[j]? = some (.error (.output cause))) ∧
      (view (state (j + 1))).bytes = (view (state j)).bytes := by
  intro sink results state
  have hstate : ∀ i, view (state i) = attempted format n (events.take i) :=
    view_acceptAll_take hw ht events
  have hend : view (sink.acceptAll events t).2 = attempted format n events := by
    have hall := hstate events.length
    simp only [state, List.take_length] at hall
    exact hall
  refine ⟨by rw [hend]; rfl, by rw [hend]; rfl, sink.length_acceptAll events t, ?_, ?_, ?_⟩
  · intro i event hi hevent
    exact getElem?_results_of_ne_finish hw ht hi hevent
  · intro i hi
    refine ⟨getElem?_results_of_finish hw ht hi, ?_⟩
    rw [hstate (i + 1), hstate i, take_succ_of_getElem? hi, attempted_concat_finish]
  · intro i j event later hij hi hbytes hrefused hj hlater
    -- the limit was passed in position `i`, so it is passed in every later one
    have hover := limit_lt_of_refused hw ht hi hbytes hrefused
    have hover' : n < ((events.take (j + 1)).flatMap (Event.bytes format)).length :=
      Nat.lt_of_lt_of_le hover (length_flatMap_take_mono (by omega))
    refine ⟨getElem?_results_of_limit_lt hw ht hj hlater hover', ?_⟩
    rw [hstate (j + 1), hstate j, bytes_attempted_of_exceeds (show i + 1 ≤ j + 1 by omega) hover,
      bytes_attempted_of_exceeds (show i + 1 ≤ j by omega) hover]

end Limited

/-- A record that does not fit, a heading that JSON does without, an end of the report, and one more
record. -/
def halfWritten : List Event :=
  [.record ⟨none, "even", "even(4) ", none, none, some [4], 1, .bare⟩, .heading "odd:", .finish,
    .record ⟨some "odd", "odd", "odd(4) ", none, none, some [4], 0, .bare⟩]

/-- The first record is cut off in the middle of its label.  The heading is accepted and the flush
goes through, and the second record adds nothing. -/
theorem acceptAll_report_limited_halfWritten :
    ∃ (results : List (Except Failure Unit)) (held : Held) (cause cause' : String),
      (report .json (Writer.bounded ⟨some 30, .takeNone, false⟩)).acceptAll halfWritten {}
        = (results, held) ∧
      held.bytes = Text.bytes "\x7b\"function\":\"even\",\"label\":\"ev" ∧ held.flushes = 1 ∧
      results[0]? = some (.error (.output cause)) ∧ results[1]? = some (.ok ()) ∧
      results[2]? = some (.ok ()) ∧ results[3]? = some (.error (.output cause')) := by
  obtain ⟨hbytes, hflushes, -, hwritten, hfinish, -⟩ :=
    acceptAll_report_limited (Writer.keeps_bounded ⟨some 30, .takeNone, false⟩) .json halfWritten
      rfl
  obtain ⟨first, hfirst, hok, herror⟩ := hwritten 0 _ rfl (by simp)
  obtain ⟨second, hsecond, hok', -⟩ := hwritten 1 _ rfl (by simp)
  obtain ⟨last, hlast, hok'', herror''⟩ := hwritten 3 _ rfl (by simp)
  obtain ⟨hthird, -⟩ := hfinish 2 rfl
  obtain ⟨cause, rfl⟩ := herror (fun h => absurd (hok.mp h) (by decide +kernel))
  obtain rfl := hok'.mpr (by decide +kernel)
  obtain ⟨cause', rfl⟩ := herror'' (fun h => absurd (hok''.mp h) (by decide +kernel))
  have hcut : (halfWritten.flatMap (Event.bytes .json)).take 30
      = Text.bytes "\x7b\"function\":\"even\",\"label\":\"ev" := by
    decide +kernel
  exact ⟨_, _, cause, cause', rfl, hbytes.trans hcut, hflushes, hfirst, hsecond, hthird, hlast⟩

end Sink

end Conformance
