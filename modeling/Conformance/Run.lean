/-
# Runs

Running a suite carries out its probes in order against a backend and tells a sink about it:
each heading before the probes under it, each record as soon as it is there, and the end.  The
first failure, of a probe or of the sink, ends the run.
-/
import Conformance.Report.Sink
import Conformance.Suite

namespace Conformance

/-- How far a run came: its result, and the states it leaves the backend and the sink in. -/
structure Outcome (σ τ α : Type) where
  /-- The result, or the failure that ended the run. -/
  result : Except Failure α
  /-- The state of the backend. -/
  backend : σ
  /-- The state of the sink. -/
  sink : τ

namespace Outcome

variable {σ τ α β : Type}

/-- Goes on from a run that did not fail. -/
def andThen (o : Outcome σ τ α) (next : α → σ → τ → Outcome σ τ β) : Outcome σ τ β :=
  match o.result with
  | .error failure => ⟨.error failure, o.backend, o.sink⟩
  | .ok value => next value o.backend o.sink

/-- The same run with another result. -/
def map (f : α → β) (o : Outcome σ τ α) : Outcome σ τ β :=
  ⟨o.result.map f, o.backend, o.sink⟩

end Outcome

variable {σ τ : Type}

/-- Tells the sink about one event. -/
def Sink.tell (sink : Sink τ) (event : Event) (s : σ) (t : τ) : Outcome σ τ Unit :=
  let (result, t) := sink.accept event t
  ⟨result, s, t⟩

/-- Carries out one probe and reports its record. -/
def Probe.run (backend : Backend σ) (sink : Sink τ) (heading : Option String) (p : Probe)
    (s : σ) (t : τ) : Outcome σ τ Record :=
  match p.execute backend heading s with
  | (.error failure, s) => ⟨.error failure, s, t⟩
  | (.ok record, s) => (sink.tell (.record record) s t).map fun _ => record

/-- Carries out probes in order, all under the same heading. -/
def Probe.runAll (backend : Backend σ) (sink : Sink τ) (heading : Option String) :
    List Probe → σ → τ → Outcome σ τ (List Record)
  | [], s, t => ⟨.ok [], s, t⟩
  | p :: rest, s, t =>
    (p.run backend sink heading s t).andThen fun record s t =>
      (runAll backend sink heading rest s t).map (record :: ·)

/-- Announces the heading of a group, if it has one. -/
def ProbeGroup.announce (sink : Sink τ) (g : ProbeGroup) (s : σ) (t : τ) : Outcome σ τ Unit :=
  match g.heading with
  | none => ⟨.ok (), s, t⟩
  | some heading => sink.tell (.heading heading) s t

/-- Runs one group. -/
def ProbeGroup.run (backend : Backend σ) (sink : Sink τ) (g : ProbeGroup) (s : σ) (t : τ) :
    Outcome σ τ (List Record) :=
  (g.announce sink s t).andThen fun _ s t => Probe.runAll backend sink g.heading g.probes s t

/-- Runs groups in order. -/
def ProbeGroup.runAll (backend : Backend σ) (sink : Sink τ) :
    List ProbeGroup → σ → τ → Outcome σ τ (List Record)
  | [], s, t => ⟨.ok [], s, t⟩
  | g :: rest, s, t =>
    (g.run backend sink s t).andThen fun records s t =>
      (runAll backend sink rest s t).map (records ++ ·)

/-- Runs a suite, and answers the records of its probes in order. -/
def Suite.run (backend : Backend σ) (sink : Sink τ) (suite : Suite) (s : σ) (t : τ) :
    Outcome σ τ (List Record) :=
  (ProbeGroup.runAll backend sink suite.groups s t).andThen fun records s t =>
    (sink.tell .finish s t).map fun _ => records

end Conformance
