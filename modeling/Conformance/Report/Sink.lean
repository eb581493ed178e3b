/-
# Sinks

A sink is where a report goes: it accepts events one after the other and may fail at any of them.
`Sink.report` writes the events in a format; `Sink.discard` and `Sink.collect` are for runs whose
report is not wanted as text.
-/
import Conformance.Failure
import Conformance.Report.Event
import Conformance.Report.Writer

namespace Conformance

/-- A machine with states in `τ` that accepts report events. -/
structure Sink (τ : Type) where
  /-- Accepts one event. -/
  accept : Event → τ → Except Failure Unit × τ

namespace Sink

variable {τ ω : Type}

/-- The sink that ignores everything. -/
def discard : Sink Unit where
  accept _ _ := (.ok (), ())

/-- The sink that keeps the events in order. -/
def collect : Sink (List Event) where
  accept event events := (.ok (), events ++ [event])

/-- What a writer did for an event: the end of the report is a flush, and anything else is the
event's texts in the given format. -/
def write (format : Format) (writer : Writer ω) : Event → ω → Except String Unit × ω
  | .finish, s => writer.flush s
  | event, s => writer.writeTexts (event.fragments format) s

/-- The sink that writes the report in a format. -/
def report (format : Format) (writer : Writer ω) : Sink ω where
  accept event s :=
    match write format writer event s with
    | (.error cause, s) => (.error (.output cause), s)
    | (.ok (), s) => (.ok (), s)

/-- Hands events to a sink one after the other, going on after a failure. -/
def acceptAll (sink : Sink τ) : List Event → τ → List (Except Failure Unit) × τ
  | [], t => ([], t)
  | event :: rest, t =>
    let (result, t) := sink.accept event t
    let (results, t) := acceptAll sink rest t
    (result :: results, t)

end Sink

end Conformance
