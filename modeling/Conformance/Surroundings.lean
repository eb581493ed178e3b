/-
# Surroundings

What the program asks for of its surroundings, one thing at a time: to print, to show a line, to
open a destination, to run the suite into it, to keep a log line, to wait.  The program is the same
whatever kind `m` of effects they have.  A system has surroundings with states
(`System.surroundings`), and so has the machine on which the program is started.
-/
import Conformance.Log
import Conformance.Run
import Conformance.Suite.Standard
import Conformance.System

namespace Conformance

/-- The surroundings of the program, with effects in `m`.  A destination that has been opened is
known by a value in `δ`, and failures by their text. -/
structure Surroundings (m : Type → Type) (δ : Type) where
  /-- Prints a text on standard output. -/
  print : String → m (Except String Unit)
  /-- Shows a line on the console. -/
  say : String → m (Except String Unit)
  /-- Opens the destination of a report: a file, or standard output if there is no path. -/
  openDestination : Option String → m (Except String δ)
  /-- Runs the standard suite on a backend and writes the report in a format, through a buffer,
  which is given up at the end. -/
  report : δ → Format → Backend Unit → m (Except Failure (List Record))
  /-- Keeps a line for the log. -/
  tell : Log.Line → m Unit
  /-- Waits. -/
  wait : Delay → m Unit

/-- A sink that tells the log about each record before it hands it on. -/
def Sink.logging {τ : Type} (sink : Sink τ) : Sink (List Log.Line × τ) where
  accept event s :=
    let log := match event with
      | .record r => s.1 ++ [Log.probeFinished r]
      | _ => s.1
    let (result, t) := sink.accept event s.2
    (result, log, t)

/-- A run of the program in a system. -/
structure Session (ω : Type) where
  /-- What was told to the log. -/
  log : List Log.Line := []
  /-- The state of the system. -/
  state : ω

/-- The same session, with one more line told to the log. -/
def Session.tell {ω : Type} (line : Log.Line) (session : Session ω) : Session ω :=
  { session with log := session.log ++ [line] }

namespace System

variable {ω : Type}

/-- Something that a system does, as a part of a session. -/
def during {α : Type} (act : ω → α × ω) : StateM (Session ω) α := fun session =>
  let (a, s) := act session.state
  (a, { session with state := s })

/-- The surroundings that a system is to the program. -/
def surroundings (system : System ω) : Surroundings (StateM (Session ω)) (Writer ω) where
  print text := during (system.print text)
  say line := during (system.say line)
  openDestination path := during (system.openDestination path)
  report w format backend := fun session =>
    let sink := (Sink.report format (w.buffered bufferSize)).logging
    let outcome := Suite.standard.run backend sink () (session.log, [], session.state)
    (outcome.result, ⟨outcome.sink.1, w.release outcome.sink.2⟩)
  tell line := fun session => ((), session.tell line)
  wait _ := pure ()

end System

end Conformance
