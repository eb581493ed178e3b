/-
# The program in a system

The program is written for surroundings of any kind.  In those of a system its actions are functions
on sessions, and what matters of a session is the state of the system: no action looks at what was
told to the log.  `Yields act s a t` says that an action answers `a` and takes the state `s` to the
state `t`, with any log.  There is one lemma for each thing that the program asks for, and
`Yields.bind` puts them together in the order of the program.
-/
import Conformance.Program
import Mathlib.Tactic.Common

namespace Conformance

variable {ω α β : Type}

/-- What an action does with a session decides what comes next. -/
lemma Session.run_bind {act : StateM (Session ω) α} {next : α → StateM (Session ω) β}
    {session after : Session ω} {a : α} (h : act.run session = (a, after)) :
    (act >>= next).run session = (next a).run after := by
  rw [StateT.run_bind, h]
  rfl

/-- In the state `s` of the system an action answers `a` and leaves the state `t`, whatever was told
to the log before. -/
def Yields (act : StateM (Session ω) α) (s : ω) (a : α) (t : ω) : Prop :=
  ∀ log, ∃ log', act.run ⟨log, s⟩ = (a, ⟨log', t⟩)

namespace Yields

variable {act : StateM (Session ω) α} {s t u : ω} {a : α} {b : β}

lemma pure (a : α) (s : ω) : Yields (pure a : StateM (Session ω) α) s a s := fun log => ⟨log, rfl⟩

lemma bind {next : α → StateM (Session ω) β} (h : Yields act s a t)
    (hnext : Yields (next a) t b u) :
    Yields (act >>= next) s b u := by
  intro log
  obtain ⟨log₁, h₁⟩ := h log
  obtain ⟨log₂, h₂⟩ := hnext log₁
  exact ⟨log₂, by rw [Session.run_bind h₁, h₂]⟩

lemma run_eq {session : Session ω} (h : Yields act session.state a t) :
    (act.run session).1 = a ∧ (act.run session).2.state = t := by
  obtain ⟨log, hlog⟩ := h session.log
  rw [show session = ⟨session.log, session.state⟩ from rfl, hlog]
  exact ⟨rfl, rfl⟩

end Yields

/-! ## What the program asks for -/

lemma System.run_during (act : ω → α × ω) {session : Session ω} {a : α} {t : ω}
    (h : act session.state = (a, t)) :
    (during act).run session = (a, { session with state := t }) := by
  have hrun : (during act).run session
      = ((act session.state).1, { session with state := (act session.state).2 }) := rfl
  rw [hrun, h]

/-- Shows lines on the console, up to the first that is refused. -/
def System.sayAll (system : System ω) (lines : List String) (s : ω) : Except String Unit × ω :=
  system.console.writeTexts (lines.map (· ++ "\n")) s

lemma System.sayAll_cons_of_ok {system : System ω} {line : String} {s t : ω}
    (h : system.say line s = (.ok (), t)) (rest : List String) :
    system.sayAll (line :: rest) s = system.sayAll rest t := by
  rw [System.say] at h
  rw [System.sayAll, System.sayAll, List.map_cons, Writer.writeTexts, h]

lemma System.sayAll_cons_of_error {system : System ω} {line cause : String} {s t : ω}
    (h : system.say line s = (.error cause, t)) (rest : List String) :
    system.sayAll (line :: rest) s = (.error cause, t) := by
  rw [System.say] at h
  rw [System.sayAll, List.map_cons, Writer.writeTexts, h]

lemma System.sayAll_singleton (system : System ω) (line : String) (s : ω) :
    system.sayAll [line] s = system.say line s := by
  rcases hsay : system.say line s with ⟨cause | ⟨⟩, t⟩
  · exact System.sayAll_cons_of_error hsay []
  · exact System.sayAll_cons_of_ok hsay []

namespace Program

variable {system : System ω} {s t : ω}

lemma yields_print {text : String} {printed : Except String Unit}
    (h : system.print text s = (printed, t)) :
    Yields (system.surroundings.print text) s printed t :=
  fun log => ⟨log, System.run_during (system.print text) h⟩

lemma yields_say {line : String} {shown : Except String Unit}
    (h : system.say line s = (shown, t)) : Yields (system.surroundings.say line) s shown t :=
  fun log => ⟨log, System.run_during (system.say line) h⟩

lemma yields_openDestination {path? : Option String} {opened : Except String (Writer ω)}
    (h : system.openDestination path? s = (opened, t)) :
    Yields (system.surroundings.openDestination path?) s opened t :=
  fun log => ⟨log, System.run_during (system.openDestination path?) h⟩

lemma yields_tell (system : System ω) (s : ω) (line : Log.Line) :
    Yields (system.surroundings.tell line) s () s :=
  fun log => ⟨log ++ [line], rfl⟩

lemma yields_pause (system : System ω) (s : ω) (delay : Delay) :
    Yields (pause system.surroundings delay) s () s := by
  unfold pause
  split
  · exact .pure () s
  · exact (yields_tell system s _).bind (.pure () s)

lemma yields_sayAll {lines : List String} {shown : Except String Unit}
    (h : system.sayAll lines s = (shown, t)) :
    Yields (sayAll system.surroundings lines) s (shown.mapError .panic) t := by
  induction lines generalizing s with
  | nil =>
    obtain ⟨rfl, rfl⟩ := Prod.mk.inj h
    exact Yields.pure _ s
  | cons line rest ih =>
    rcases hsay : system.say line s with ⟨cause | ⟨⟩, u⟩
    · rw [System.sayAll_cons_of_error hsay] at h
      obtain ⟨rfl, rfl⟩ := Prod.mk.inj h
      exact (yields_say hsay).bind (.pure _ u)
    · rw [System.sayAll_cons_of_ok hsay] at h
      exact (yields_say hsay).bind (ih h)

end Program

/-! ## The end -/

/-- How the program is left with an exit code after the last lines were put to the console. -/
def Exit.after (code : ℕ) : Except String Unit → Exit
  | .ok () => .code code
  | .error cause => .panic cause

namespace Program

variable {system : System ω} {build : Build} {env : Environment} {settings : Settings}
  {trouble : Trouble}

lemma run_leave_trouble (session : Session ω) :
    (leave system.surroundings env (.error (.trouble trouble))).run session
      = let (shown, s) := system.say (Console.message env .error trouble.fullText) session.state
        (Exit.after trouble.exitCode shown, { session with state := s }) := by
  rcases hsay : system.say (Console.message env .error trouble.fullText) session.state with
    ⟨shown, s⟩
  have hrun : (system.surroundings.say (Console.message env .error trouble.fullText)).run session
      = (shown, { session with state := s }) :=
    System.run_during (system.say _) hsay
  rw [leave, Session.run_bind hrun]
  rcases shown with _ | ⟨⟩ <;> rfl

/-- A run that ends in trouble goes on to show it, and that is the end. -/
lemma execute_of_trouble {session ended : Session ω}
    (h : (run system.surroundings build env settings).run
      (session.tell (Log.starting build.fullVersion settings))
      = (.error (.trouble trouble), ended)) :
    (execute system.surroundings build env settings).run session
      = let (shown, s) := system.say (Console.message env .error trouble.fullText) ended.state
        (Exit.after trouble.exitCode shown, { ended with state := s }) := by
  have hstart : (system.surroundings.tell (Log.starting build.fullVersion settings)).run session
      = ((), session.tell (Log.starting build.fullVersion settings)) := rfl
  rw [execute, Session.run_bind hstart, Session.run_bind h, run_leave_trouble]

end Program

end Conformance
