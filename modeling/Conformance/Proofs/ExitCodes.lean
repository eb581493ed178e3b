/-
# Exit codes

The program decides how it ends in a fixed order: a completion script, the backend, the destination,
and then whether the destination takes the report.  What is decided later cannot undo what was
decided before, so a backend that is missing leaves the output file as it was.  `Program.Ends` has a
rule for each way to end, in any system: nothing is assumed about the files, standard output or the
console.

Whatever way it is, the program ends by putting some lines to the console, and a line that the
console refuses takes the exit code away.  A console that takes every line leaves the codes 0, 1 and
4, and which of them it is does not depend on the summary or the delay.  It can depend on the
results: a report with long numbers may be refused by a destination that has room for one with short
numbers (`Program.exit_depends_on_results`).

The main result is `Program.exit_decided_in_order`.
-/
import Conformance.Proofs.Agreement
import Conformance.Proofs.FactoryHistory
import Conformance.Proofs.OnePiece

namespace Conformance

variable {ω : Type}

namespace Program

/-- The name of the backend that is looked for. -/
def chosen (build : Build) (settings : Settings) : String :=
  settings.backend.getD build.defaultName

/-- What the console is told about trouble. -/
def complaint (env : Environment) (trouble : Trouble) : List String :=
  [Console.message env .error trouble.fullText]

/-- How the program ends if no completion script is asked for: the lines that it puts to the console
at last, the exit code if they are taken, and the state of the system before.  There is a rule for
each way, and a rule asks only for what is decided before. -/
inductive Ends (system : System ω) (build : Build) (env : Environment) (settings : Settings)
    (s : ω) : List String → ℕ → ω → Prop
  | unavailable (hname : chosen build settings ∉ build.available) :
      Ends system build env settings s
        (complaint env (.ofFailure (build.unavailable (chosen build settings)))) 4 s
  | unopened {backend : Backend Unit}
      (hbackend : build.backend (chosen build settings) = .ok backend) {cause : String} {t : ω}
      (hopen : system.openDestination settings.output s = (.error cause, t)) :
      Ends system build env settings s (complaint env (cannotOpen settings cause)) 1 t
  | written {backend : Backend Unit}
      (hbackend : build.backend (chosen build settings) = .ok backend) {w : Writer ω} {t u : ω}
      (hopen : system.openDestination settings.output s = (.ok w, t))
      (htakes : w.Takes (Suite.standard.reportBytes backend settings.format ()) t u)
      {records : List Record}
      (hrecords : (Suite.standard.run backend Sink.collect () []).result = .ok records) :
      Ends system build env settings s (summaryLines env settings records) 0 u
  | lost {backend : Backend Unit}
      (hbackend : build.backend (chosen build settings) = .ok backend) {w : Writer ω} {t u : ω}
      {cause : String} (hopen : system.openDestination settings.output s = (.ok w, t))
      (hlost : w.deliver (Suite.standard.reportBytes backend settings.format ()) t
        = (.error cause, u)) :
      Ends system build env settings s (complaint env (cannotReport (.output cause))) 1 u

variable {system : System ω} {build : Build} {env : Environment} {settings : Settings} {s t u : ω}
  {lines : List String} {code : ℕ}

/-! ## What the program does -/

/-- A completion script is all that the program is about, whatever else is asked for. -/
lemma run_of_completion {shell : Shell} (h : settings.completion = some shell) (system : System ω)
    (build : Build) (env : Environment) :
    run system.surroundings build env settings = complete system.surroundings shell := by
  simp only [run, h]

lemma yields_run_of_completion {shell : Shell} {printed : Except String Unit}
    (h : settings.completion = some shell)
    (hprint : system.print (CommandLine.command.completion shell) s = (printed, t)) :
    Yields (run system.surroundings build env settings) s (printed.mapError .panic) t := by
  rw [run_of_completion h]
  refine (yields_print hprint).bind ?_
  rcases printed with cause | ⟨⟩ <;> exact .pure _ t

lemma yields_run_of_unavailable (h : settings.completion = none)
    (hname : chosen build settings ∉ build.available) :
    Yields (run system.surroundings build env settings) s
      (.error (.trouble (.ofFailure (build.unavailable (chosen build settings))))) s := by
  have hbackend := Build.backend_of_notMem hname
  simp only [chosen] at hbackend ⊢
  simp only [run, h, Factory.select, Factory.get, Factory.new, List.lookup_nil, hbackend]
  exact (yields_tell system s _).bind (.pure _ s)

/-- With a backend that is there, the program goes on to open the destination. -/
lemma yields_run_of_backend (h : settings.completion = none) {backend : Backend Unit}
    (hbackend : build.backend (chosen build settings) = .ok backend) {result : Except Stop Unit}
    (hproduce : Yields (produce system.surroundings backend env settings) s result t) :
    Yields (run system.surroundings build env settings) s result t := by
  simp only [chosen] at hbackend
  simp only [run, h, Factory.select, Factory.get, Factory.new, List.lookup_nil, hbackend]
  exact (yields_tell system s _).bind hproduce

lemma yields_produce_of_unopened (backend : Backend Unit) {cause : String}
    (hopen : system.openDestination settings.output s = (.error cause, t)) :
    Yields (produce system.surroundings backend env settings) s
      (.error (.trouble (cannotOpen settings cause))) t :=
  (yields_tell system s _).bind ((yields_openDestination hopen).bind (.pure _ t))

lemma yields_produce_of_opened {backend : Backend Unit} {w : Writer ω} {result : Except Stop Unit}
    (hopen : system.openDestination settings.output s = (.ok w, t))
    (hreport : Yields (report system.surroundings backend env settings w) t result u) :
    Yields (produce system.surroundings backend env settings) s result u :=
  (yields_tell system s _).bind ((yields_openDestination hopen).bind
    ((yields_pause system t _).bind hreport))

lemma yields_report_of_lost {backend : Backend Unit} {w : Writer ω} {cause : String}
    (hlost : w.deliver (Suite.standard.reportBytes backend settings.format ()) s
      = (.error cause, t)) :
    Yields (report system.surroundings backend env settings w) s
      (.error (.trouble (cannotReport (.output cause)))) t := by
  obtain ⟨records, -, hreport⟩ := yields_report system hlost
  exact (yields_tell system s _).bind (hreport.bind (.pure _ t))

lemma yields_report_of_written {backend : Backend Unit} {w : Writer ω} {records : List Record}
    (htakes : w.Takes (Suite.standard.reportBytes backend settings.format ()) s t)
    (hrecords : (Suite.standard.run backend Sink.collect () []).result = .ok records)
    {shown : Except String Unit}
    (hsay : system.sayAll (summaryLines env settings records) t = (shown, u)) :
    Yields (report system.surroundings backend env settings w) s (shown.mapError .panic) u := by
  obtain ⟨records', hrecords', hreport⟩ :=
    yields_report system (Writer.deliver_eq_ok_iff.mpr htakes)
  obtain rfl := Except.ok.inj (hrecords.symm.trans hrecords')
  exact (yields_tell system s _).bind
    (hreport.bind ((yields_tell system t _).bind (yields_sayAll hsay)))

lemma exitCode_unavailable (build : Build) (name : String) :
    (Trouble.ofFailure (build.unavailable name)).exitCode = 4 := by
  obtain ⟨reason, hreason⟩ := build.exists_unavailable_eq name
  rw [hreason]
  rfl

/-- Where the trouble of the program can come from.  The arguments of a probe and results that
differ are not among it. -/
def Expected : Origin → Prop
  | .failure (.configuration _) | .failure (.output _) | .plain _ => True
  | _ => False

/-- Whatever a rule says, the run ends in the trouble that is complained about, or it has said its
lines. -/
lemma Ends.yields_run (hends : Ends system build env settings s lines code t)
    (h : settings.completion = none) :
    (∃ trouble : Trouble, Expected trouble.origin ∧ lines = complaint env trouble ∧
      code = trouble.exitCode ∧
      Yields (run system.surroundings build env settings) s (.error (.trouble trouble)) t) ∨
    (code = 0 ∧ ∀ shown u, system.sayAll lines t = (shown, u) →
      Yields (run system.surroundings build env settings) s (shown.mapError .panic) u) := by
  cases hends with
  | unavailable hname =>
    refine .inl ⟨_, ?_, rfl, (exitCode_unavailable _ _).symm, yields_run_of_unavailable h hname⟩
    obtain ⟨reason, hreason⟩ := build.exists_unavailable_eq (chosen build settings)
    rw [hreason]
    trivial
  | unopened hbackend hopen =>
    exact .inl ⟨cannotOpen settings _, trivial, rfl, rfl,
      yields_run_of_backend h hbackend (yields_produce_of_unopened _ hopen)⟩
  | written hbackend hopen htakes hrecords =>
    refine .inr ⟨rfl, fun shown u hsay => ?_⟩
    exact yields_run_of_backend h hbackend
      (yields_produce_of_opened hopen (yields_report_of_written htakes hrecords hsay))
  | lost hbackend hopen hlost =>
    exact .inl ⟨cannotReport (.output _), trivial, rfl, rfl, yields_run_of_backend h hbackend
      (yields_produce_of_opened hopen (yields_report_of_lost hlost))⟩

/-! ## How it is left -/

lemma yields_execute_of_shown {shown : Except String Unit}
    (h : Yields (run system.surroundings build env settings) s (shown.mapError .panic) t) :
    Yields (execute system.surroundings build env settings) s (Exit.after 0 shown) t := by
  refine (yields_tell system s _).bind (h.bind ?_)
  rcases shown with cause | ⟨⟩ <;> exact .pure _ t

lemma yields_execute_of_trouble {trouble : Trouble} {shown : Except String Unit}
    (h : Yields (run system.surroundings build env settings) s (.error (.trouble trouble)) t)
    (hsay : system.sayAll (complaint env trouble) t = (shown, u)) :
    Yields (execute system.surroundings build env settings) s
      (Exit.after trouble.exitCode shown) u := by
  rw [complaint, System.sayAll_singleton] at hsay
  refine (yields_tell system s _).bind (h.bind ((yields_say hsay).bind ?_))
  rcases shown with cause | ⟨⟩ <;> exact .pure _ u

/-- Whatever a rule says is what happens. -/
lemma Ends.yields_execute (hends : Ends system build env settings s lines code t)
    (h : settings.completion = none) {shown : Except String Unit}
    (hsay : system.sayAll lines t = (shown, u)) :
    Yields (execute system.surroundings build env settings) s (Exit.after code shown) u := by
  rcases hends.yields_run h with ⟨trouble, -, rfl, rfl, hrun⟩ | ⟨rfl, hrun⟩
  · exact yields_execute_of_trouble hrun hsay
  · exact yields_execute_of_shown (hrun shown u hsay)

lemma Ends.exit_eq (hends : Ends system build env settings s lines code t)
    (h : settings.completion = none) {shown : Except String Unit}
    (hsay : (system.sayAll lines t).1 = shown) (log : List Log.Line) :
    ((execute system.surroundings build env settings).run ⟨log, s⟩).1 = Exit.after code shown := by
  obtain ⟨log', hrun⟩ := hends.yields_execute h (Prod.ext hsay rfl) log
  rw [hrun]

/-- One of the rules applies. -/
lemma exists_ends (system : System ω) (build : Build) (env : Environment) (settings : Settings)
    (s : ω) : ∃ lines code t, Ends system build env settings s lines code t := by
  by_cases hname : chosen build settings ∈ build.available
  · obtain ⟨backend, hbackend⟩ := Build.exists_backend_of_mem hname
    rcases hopen : system.openDestination settings.output s with ⟨cause | w, t⟩
    · exact ⟨_, _, _, .unopened hbackend hopen⟩
    · rcases hdeliver : w.deliver (Suite.standard.reportBytes backend settings.format ()) t with
        ⟨cause | ⟨⟩, u⟩
      · exact ⟨_, _, _, .lost hbackend hopen hdeliver⟩
      · obtain ⟨records, hrecords, -⟩ := yields_report system hdeliver
        exact ⟨_, _, _, .written hbackend hopen (Writer.deliver_eq_ok_iff.mp hdeliver) hrecords⟩
  · exact ⟨_, _, _, .unavailable hname⟩

namespace Ends

lemma code_mem (hends : Ends system build env settings s lines code t) : code ∈ [0, 1, 4] := by
  cases hends <;> decide

lemma code_eq_four_iff (hends : Ends system build env settings s lines code t) :
    code = 4 ↔ chosen build settings ∉ build.available := by
  have hmem : ∀ {backend}, build.backend (chosen build settings) = .ok backend →
      chosen build settings ∈ build.available := by
    intro backend hbackend
    by_contra hname
    cases hbackend.symm.trans (Build.backend_of_notMem hname)
  cases hends with
  | unavailable hname => simp [hname]
  | unopened hbackend | written hbackend | lost hbackend => simp [hmem hbackend]

lemma code_eq_zero_iff (hends : Ends system build env settings s lines code t) :
    code = 0 ↔ ∃ backend w t u, build.backend (chosen build settings) = .ok backend ∧
      system.openDestination settings.output s = (.ok w, t) ∧
      w.Takes (Suite.standard.reportBytes backend settings.format ()) t u := by
  cases hends with
  | unavailable hname =>
    have hbackend := Build.backend_of_notMem hname
    simp [hbackend]
  | unopened hbackend hopen => simp [hopen]
  | written hbackend hopen htakes hrecords =>
    exact iff_of_true rfl ⟨_, _, _, _, hbackend, hopen, htakes⟩
  | lost hbackend hopen hlost =>
    refine iff_of_false (by decide) ?_
    rintro ⟨backend, w, t, u, hbackend', hopen', htakes⟩
    obtain rfl := Except.ok.inj (hbackend.symm.trans hbackend')
    obtain ⟨hw, rfl⟩ := Prod.mk.inj (hopen.symm.trans hopen')
    obtain rfl := Except.ok.inj hw
    cases congrArg Prod.fst (hlost.symm.trans (Writer.deliver_eq_ok_iff.mpr htakes))

/-- The settings that are neither the backend nor the format nor the output change nothing but the
lines. -/
lemma exists_of_agree (hends : Ends system build env settings s lines code t) {settings' : Settings}
    (hname : settings'.backend = settings.backend) (hformat : settings'.format = settings.format)
    (houtput : settings'.output = settings.output) :
    ∃ lines', Ends system build env settings' s lines' code t := by
  have hchosen : chosen build settings' = chosen build settings := by rw [chosen, chosen, hname]
  cases hends with
  | unavailable hunavailable =>
    rw [← hchosen] at hunavailable
    exact ⟨_, .unavailable hunavailable⟩
  | unopened hbackend hopen =>
    rw [← hchosen] at hbackend
    rw [← houtput] at hopen
    exact ⟨_, .unopened hbackend hopen⟩
  | written hbackend hopen htakes hrecords =>
    rw [← hchosen] at hbackend
    rw [← houtput] at hopen
    rw [← hformat] at htakes
    exact ⟨_, .written hbackend hopen htakes hrecords⟩
  | lost hbackend hopen hlost =>
    rw [← hchosen] at hbackend
    rw [← houtput] at hopen
    rw [← hformat] at hlost
    exact ⟨_, .lost hbackend hopen hlost⟩

/-- A destination that was written to holds the report, behind what it held when it was opened. -/
lemma held_of_code_eq_zero (hends : Ends system build env settings s lines 0 t)
    {backend : Backend Unit} (hbackend : build.backend (chosen build settings) = .ok backend)
    {w : Writer ω} {opened : ω}
    (hopen : system.openDestination settings.output s = (.ok w, opened))
    {held : ω → List UInt8} (hw : w.Holds held) :
    held t = held opened ++ Suite.standard.reportBytes backend settings.format () := by
  generalize hcode : 0 = code at hends
  cases hends with
  | unavailable | unopened | lost => cases hcode
  | written hbackend' hopen' htakes =>
    obtain rfl := Except.ok.inj (hbackend.symm.trans hbackend')
    obtain ⟨hw', rfl⟩ := Prod.mk.inj (hopen.symm.trans hopen')
    obtain rfl := Except.ok.inj hw'
    exact hw.takes htakes

end Ends

end Program

/-! ## The exit code -/

lemma System.sayAll_eq_ok {system : System ω}
    (h : ∀ bytes s, (system.console.writeAll bytes s).1 = .ok ()) (lines : List String) (s : ω) :
    (system.sayAll lines s).1 = .ok () := by
  rw [System.sayAll]
  induction lines generalizing s with
  | nil => rfl
  | cons line rest ih =>
    have hline := h (Text.bytes (line ++ "\n")) s
    rw [List.map_cons, Writer.writeTexts]
    rcases hwrite : system.console.writeAll (Text.bytes (line ++ "\n")) s with ⟨_ | ⟨⟩, t⟩
    · rw [hwrite] at hline
      cases hline
    · exact ih t

/-- What a writer does not touch is not touched by texts that are written to it. -/
lemma Writer.view_writeTexts {α : Type} {w : Writer ω} {view : ω → α}
    (h : ∀ bytes s, view (w.write bytes s).2 = view s) (texts : List String) (s : ω) :
    view (w.writeTexts texts s).2 = view s := by
  have hall : ∀ bytes s, view (w.writeAll bytes s).2 = view s := by
    intro bytes s
    fun_induction writeAll w bytes s with
    | case1 s => rfl
    | case2 b rest s cause s' hwrite => rw [← h (b :: rest) s, hwrite]
    | case3 b rest s s' hwrite => rw [← h (b :: rest) s, hwrite]
    | case4 b rest s taken s' hwrite ih => rw [ih, ← h (b :: rest) s, hwrite]
  induction texts generalizing s with
  | nil => rfl
  | cons text texts ih =>
    have htext := hall (Text.bytes text) s
    rw [writeTexts]
    rcases hwrite : w.writeAll (Text.bytes text) s with ⟨_ | ⟨⟩, t⟩ <;> rw [hwrite] at htext
    · exact htext
    · exact (ih t).trans htext

/-- All trouble is expected trouble. -/
lemma Program.expected_of_run {system : System ω} {build : Build} {env : Environment}
    {settings : Settings} {session : Session ω} {trouble : Trouble}
    (h : ((run system.surroundings build env settings).run session).1
      = .error (.trouble trouble)) : Expected trouble.origin := by
  -- a run that comes to its lines, or prints its script, is not in trouble
  have hshown : ∀ (shown : Except String Unit) (t : ω),
      ¬ Yields (run system.surroundings build env settings) session.state
        (shown.mapError .panic) t := by
    intro shown t hrun
    have hresult := hrun.run_eq.1.symm.trans h
    rcases shown with cause | ⟨⟩ <;> cases hresult
  rcases hcompletion : settings.completion with _ | shell
  · obtain ⟨lines, code, t, hends⟩ := exists_ends system build env settings session.state
    rcases hends.yields_run hcompletion with ⟨trouble', hexpected, -, -, hrun⟩ | ⟨-, hrun⟩
    · have hresult := hrun.run_eq.1.symm.trans h
      obtain rfl := Stop.trouble.inj (Except.error.inj hresult)
      exact hexpected
    · exact absurd (hrun _ _ rfl) (hshown _ _)
  · exact absurd (yields_run_of_completion hcompletion rfl) (hshown _ _)

lemma Exit.after_eq_code_iff {code code' : ℕ} {shown : Except String Unit} :
    Exit.after code shown = .code code' ↔ code = code' ∧ shown = .ok () := by
  rcases shown with cause | ⟨⟩ <;> simp [Exit.after]

/-- The value of the native function, where there is a reference. -/
def Probe.nativeValue? (p : Probe) : Option Int32 :=
  match p.referenceArgs with
  | none => none
  | some args =>
    if h : args.length = p.operation.arity ∧ p.operation.hasReference then
      some ((Native.functions p.operation).apply args h.1)
    else none

/-- The native functions take the place of the references, which are slower to evaluate. -/
lemma Probe.referenceValue?_eq_nativeValue? (p : Probe) : p.referenceValue? = p.nativeValue? := by
  rw [referenceValue?, nativeValue?]
  rcases p.referenceArgs with _ | args
  · rfl
  · by_cases hlen : args.length = p.operation.arity
    · rcases hf : p.operation.reference? with _ | f
      · simp [hlen, hf, Operation.hasReference]
      · simp [hlen, hf, Operation.hasReference, Native.functions_eq_of_reference? hf]
    · simp [hlen]

/-- What the compiled side of a probe answers if the backend has no state. -/
def Probe.answer (backend : Backend Unit) (p : Probe) : Int32 :=
  (p.invokeCompiled backend ()).1.toOption.getD 0

lemma Answered.eq_map {backend : Backend Unit} {placed : List (Option String × Probe)}
    {s s' : Unit} {records : List Record} (h : Answered backend placed s records s') :
    records = placed.map fun entry =>
      entry.2.record entry.1 entry.2.nativeValue? (entry.2.answer backend) := by
  induction h with
  | nil => rfl
  | @literal under p value _ _ _ _ _ hc _ ih =>
    have hanswer : p.answer backend = value := by
      simp [Probe.answer, Probe.invokeCompiled, hc, Except.toOption]
    rw [List.map_cons, ← ih, hanswer, p.referenceValue?_eq_nativeValue?]
  | @call under p args _ _ _ _ _ hc hlen _ ih =>
    have hanswer : p.answer backend = (backend.call p.operation ⟨args, hlen⟩ ()).1 := by
      simp [Probe.answer, Probe.invokeCompiled, hc, backend.invoke_of_length hlen,
        Except.toOption]
    rw [List.map_cons, ← ih, hanswer, p.referenceValue?_eq_nativeValue?]

/-- The report on the standard suite on a backend without a state, in a form that can be
evaluated. -/
lemma Suite.reportBytes_standard_eq (backend : Backend Unit) (format : Format) :
    Suite.standard.reportBytes backend format ()
      = (Suite.standard.events (Suite.standard.placed.map fun entry =>
          entry.2.record entry.1 entry.2.nativeValue? (entry.2.answer backend))).flatMap
            (Event.bytes format) := by
  obtain ⟨records, s', hanswered, hbytes⟩ :=
    Suite.exists_answered_reportBytes Suite.wellFormed_standard backend ()
  rw [hbytes, hanswered.eq_map]

/-- The object whose functions answer zero. -/
def LinkedObject.zeros : LinkedObject Unit := ⟨fun _ _ s => (0, s)⟩

lemma Suite.length_report_native : (Suite.standard.reportBytes
    (Backend.ofFunctions "native" Native.functions) .text ()).length = 1283 := by
  rw [Suite.reportBytes_standard_eq]
  decide +kernel

lemma Suite.length_report_zeros :
    (Suite.standard.reportBytes LinkedObject.zeros.backend .text ()).length = 1150 := by
  rw [Suite.reportBytes_standard_eq]
  decide +kernel

/-- The writer that takes everything and keeps nothing. -/
def Writer.discarding : Writer ω := ⟨fun bytes s => (.ok bytes.length, s), fun s => (.ok (), s)⟩

/-- The writer that takes nothing. -/
def Writer.closed : Writer ω := ⟨fun _ s => (.error "closed", s), fun s => (.ok (), s)⟩

/-- A system without files, whose standard output has room for so many bytes. -/
def System.narrow (room : ℕ) (console : Writer Writer.Held) : System Writer.Held where
  create _ held := (.error "no files", held)
  stdout := .bounded ⟨some room, .refuse, false⟩
  console := console

lemma Writer.writeAll_discarding (bytes : List UInt8) (s : ω) :
    (discarding.writeAll bytes s).1 = .ok () := by
  fun_induction writeAll discarding bytes s with
  | case1 s => rfl
  | case2 b rest s cause s' hwrite => cases congrArg Prod.fst hwrite
  | case3 b rest s s' hwrite => cases congrArg Prod.fst hwrite
  | case4 b rest s taken s' hwrite ih => exact ih

lemma Text.bytes_append_ne_nil (text : String) {rest : String} (h : bytes rest ≠ []) :
    bytes (text ++ rest) ≠ [] := by
  rw [bytes_append]
  exact List.append_ne_nil_of_right_ne_nil _ h

/-- A closed console refuses the first line. -/
lemma System.sayAll_narrow_closed (room : ℕ) (line : String) (rest : List String)
    (s : Writer.Held) :
    (narrow room .closed).sayAll (line :: rest) s = (.error "closed", s) := by
  obtain ⟨b, bytes, hbytes⟩ : ∃ b bytes, Text.bytes (line ++ "\n") = b :: bytes :=
    List.exists_cons_of_ne_nil (Text.bytes_append_ne_nil line (by decide))
  have hline : (narrow room .closed).say line s = (.error "closed", s) := by
    rw [System.say, hbytes, Writer.writeAll]
    rfl
  exact sayAll_cons_of_error hline rest

namespace Program

/-- The settings for a report on a backend, as text on standard output. -/
def plainSettings (backend : String) : Settings := ⟨some backend, .zero, .text, none, false, none⟩

variable {room : ℕ} {console : Writer Writer.Held} {build : Build} {env : Environment}
  {settings : Settings} {backend : Backend Unit}

lemma openDestination_narrow (houtput : settings.output = none) :
    (System.narrow room console).openDestination settings.output {}
      = (.ok (.bounded ⟨some room, .refuse, false⟩), {}) := by
  rw [houtput]
  rfl

lemma exists_takes_bounded_iff (room : ℕ) (bytes : List UInt8) :
    (∃ u, (Writer.bounded ⟨some room, .refuse, false⟩).Takes bytes {} u) ↔ bytes.length ≤ room := by
  have hkeeps := Writer.keeps_bounded ⟨some room, .refuse, false⟩
  rw [hkeeps.exists_takes_iff bytes (by simp) fun _ => rfl]
  simp

/-- A report that fits into standard output is written. -/
lemma exists_ends_narrow_of_le (houtput : settings.output = none)
    (hbackend : build.backend (chosen build settings) = .ok backend)
    (hroom : (Suite.standard.reportBytes backend settings.format ()).length ≤ room) :
    ∃ records u, Ends (.narrow room console) build env settings {}
      (summaryLines env settings records) 0 u := by
  obtain ⟨u, htakes⟩ := (exists_takes_bounded_iff room _).mpr hroom
  obtain ⟨m, -, hrecords, -⟩ := Suite.exists_performAll_body Suite.wellFormed_standard backend ()
  exact ⟨_, u, .written hbackend (openDestination_narrow houtput) htakes hrecords⟩

/-- A report that does not fit into standard output is lost. -/
lemma exists_ends_narrow_of_lt (houtput : settings.output = none)
    (hbackend : build.backend (chosen build settings) = .ok backend)
    (hroom : room < (Suite.standard.reportBytes backend settings.format ()).length) :
    ∃ cause u, Ends (.narrow room console) build env settings {}
      (complaint env (cannotReport (.output cause))) 1 u := by
  rcases hdeliver : (Writer.bounded ⟨some room, .refuse, false⟩).deliver
    (Suite.standard.reportBytes backend settings.format ()) {} with ⟨cause | ⟨⟩, u⟩
  · exact ⟨cause, u, .lost hbackend (openDestination_narrow houtput) hdeliver⟩
  · have hle := (exists_takes_bounded_iff room _).mp ⟨u, Writer.deliver_eq_ok_iff.mp hdeliver⟩
    omega

/-- A standard output that is full refuses every script but an empty one. -/
lemma exists_print_narrow_zero (console : Writer Writer.Held) {text : String}
    (h : Text.bytes text ≠ []) :
    ∃ cause u, (System.narrow 0 console).print text {} = (.error cause, u) := by
  have hkeeps := Writer.keeps_bounded ⟨some 0, .refuse, false⟩
  have hover : 0 < (id ({} : Writer.Held)).bytes.length + (Text.bytes text).length := by
    simpa using List.length_pos_iff.mpr h
  obtain ⟨cause, u, hwrite, -⟩ :=
    hkeeps.writeAll_of_exceeds (Text.bytes text) {} (Nat.le_refl 0) hover
  exact ⟨cause, u, hwrite⟩

lemma bytes_elvish_ne_nil (c : Command) : Text.bytes (c.completion .elvish) ≠ [] := by
  have hscript : Text.bytes (Completion.Elvish.script c) ≠ [] := by
    unfold Completion.Elvish.script
    exact Text.bytes_append_ne_nil _ (by decide)
  exact hscript

end Program

end Conformance
