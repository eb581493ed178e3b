/-
# Mismatches in the text of a report

There are two ways to learn that a compiled value is wrong.  The analysis goes through the records,
and a reader of the report goes through its lines: the reader divides a line at its tabs and
compares the two columns with values.  `Text.showsDifference` is such a reader, and knows nothing of
records.

The two agree as long as no heading or label brings a tab or a line end of its own, and every probe
was made by `Probe.compare`, `Probe.compareWith` or `Probe.observe`.  Such a probe is laid out as a
comparison if it has a reference value, so that no difference is left out of the columns; and a line
without a reference value has one tab at most, so that it is not taken for a comparison.  The main
result is `Suite.transcript_shows_mismatches`.
-/
import Conformance.Proofs.FalseAlarms
import Conformance.Proofs.Transcript

namespace Conformance

/-! ## Reading a line -/

namespace Text

/-- The label and the two values of a line that has them in columns. -/
def readColumns? (line : String) : Option (String × String × String) :=
  match line.toList.splitOn '\t' with
  | [label, left, right] =>
    match left.dropPrefix? " normal: ".toList, right.dropPrefix? "compiled:".toList with
    | some normal, some compiled =>
      some (String.ofList label, String.ofList normal, String.ofList compiled)
    | _, _ => none
  | _ => none

/-- Whether a line sets two different values side by side. -/
def showsDifference (line : String) : Bool :=
  match readColumns? line with
  | some (_, normal, compiled) => normal != compiled
  | none => false

/-- A text that stays within its column and its line. -/
structure Plain (text : String) : Prop where
  tab : '\t' ∉ text.toList
  newline : '\n' ∉ text.toList

lemma toList_columns (label normal compiled : String) :
    (label ++ "\t normal: " ++ normal ++ "\tcompiled:" ++ compiled).toList
      = label.toList ++ '\t' :: (" normal: ".toList ++ normal.toList
          ++ '\t' :: ("compiled:".toList ++ compiled.toList)) := by
  have hnormal : "\t normal: ".toList = '\t' :: " normal: ".toList := rfl
  have hcompiled : "\tcompiled:".toList = '\t' :: "compiled:".toList := rfl
  simp only [String.toList_append, hnormal, hcompiled, List.append_assoc, List.cons_append]

lemma count_tab_columns (label normal compiled : String) :
    (label ++ "\t normal: " ++ normal ++ "\tcompiled:" ++ compiled).toList.count '\t'
      = label.toList.count '\t' + normal.toList.count '\t' + compiled.toList.count '\t' + 2 := by
  have hnormal : " normal: ".toList.count '\t' = 0 := by decide
  have hcompiled : "compiled:".toList.count '\t' = 0 := by decide
  rw [toList_columns]
  simp only [List.count_append, List.count_cons_self, hnormal, hcompiled]
  omega

lemma eq_columns_of_readColumns? {line label normal compiled : String}
    (h : readColumns? line = some (label, normal, compiled)) :
    line = label ++ "\t normal: " ++ normal ++ "\tcompiled:" ++ compiled := by
  unfold readColumns? at h
  split at h
  case h_2 => cases h
  case h_1 first left right hsplit =>
    split at h
    case h_2 => cases h
    case h_1 chars chars' hleft hright =>
      obtain ⟨rfl, rfl, rfl⟩ : String.ofList first = label ∧ String.ofList chars = normal ∧
          String.ofList chars' = compiled := by simpa using h
      obtain ⟨_, rfl, hbeq⟩ := List.dropPrefix?_eq_some_iff.mp hleft
      obtain ⟨_, rfl, hbeq'⟩ := List.dropPrefix?_eq_some_iff.mp hright
      obtain rfl := eq_of_beq hbeq
      obtain rfl := eq_of_beq hbeq'
      have hline : ['\t'].intercalate (line.toList.splitOn '\t') = line.toList :=
        List.intercalate_splitOn '\t'
      rw [hsplit] at hline
      apply String.toList_inj.mp
      rw [← hline, toList_columns]
      simp [List.intercalate]

lemma readColumns?_columns {label normal compiled : String} (hlabel : '\t' ∉ label.toList)
    (hnormal : '\t' ∉ normal.toList) (hcompiled : '\t' ∉ compiled.toList) :
    readColumns? (label ++ "\t normal: " ++ normal ++ "\tcompiled:" ++ compiled)
      = some (label, normal, compiled) := by
  have hleft : '\t' ∉ " normal: ".toList ++ normal.toList := by
    rw [List.mem_append, not_or]
    exact ⟨by decide, hnormal⟩
  have hright : '\t' ∉ "compiled:".toList ++ compiled.toList := by
    rw [List.mem_append, not_or]
    exact ⟨by decide, hcompiled⟩
  have hsplit : (label ++ "\t normal: " ++ normal ++ "\tcompiled:" ++ compiled).toList.splitOn '\t'
      = [label.toList, " normal: ".toList ++ normal.toList,
          "compiled:".toList ++ compiled.toList] := by
    rw [toList_columns, List.splitOn_append_cons_self_of_not_mem hlabel,
      List.splitOn_append_cons_self_of_not_mem hleft, List.splitOn_eq_singleton hright]
  simp only [readColumns?, hsplit, dropPrefix?_append, String.ofList_toList]

/-- A line with two tabs at most can be read in one way only, so the reader finds the difference
whatever texts the columns are said to hold. -/
lemma showsDifference_iff {line : String} (h : line.toList.count '\t' ≤ 2) :
    showsDifference line = true ↔ ∃ label normal compiled : String,
      line = label ++ "\t normal: " ++ normal ++ "\tcompiled:" ++ compiled ∧ normal ≠ compiled := by
  constructor
  · intro hshows
    unfold showsDifference at hshows
    split at hshows
    case h_1 label normal compiled hread =>
      exact ⟨label, normal, compiled, eq_columns_of_readColumns? hread, by simpa using hshows⟩
    case h_2 => cases hshows
  · rintro ⟨label, normal, compiled, rfl, hne⟩
    rw [count_tab_columns] at h
    have hlabel : '\t' ∉ label.toList := List.count_eq_zero.mp (by omega)
    have hnormal : '\t' ∉ normal.toList := List.count_eq_zero.mp (by omega)
    have hcompiled : '\t' ∉ compiled.toList := List.count_eq_zero.mp (by omega)
    simpa [showsDifference, readColumns?_columns hlabel hnormal hcompiled] using hne

lemma showsDifference_of_count_lt {line : String} (h : line.toList.count '\t' < 2) :
    showsDifference line = false := by
  rw [← Bool.not_eq_true, showsDifference_iff (by omega)]
  rintro ⟨label, normal, compiled, rfl, -⟩
  rw [count_tab_columns] at h
  omega

end Text

/-! ## The line of a record -/

/-- The probes that the constructors of this library make. -/
inductive Probe.Made : Probe → Prop
  | compare (op : Operation) (label : String) (args : List Int32) : Made (.compare op label args)
  | compareWith (op : Operation) (label : String) (args : List Int32) (compiled : CompiledSide) :
      Made (.compareWith op label args compiled)
  | observe (op : Operation) (label : String) (args : List Int32) (layout : Layout) :
      Made (.observe op label args layout)

lemma Probe.Made.layout_eq {p : Probe} (h : p.Made) {normal : Int32}
    (hnormal : p.referenceValue? = some normal) : p.layout = .comparison := by
  obtain ⟨args, -, -, hargs, -⟩ := Probe.exists_args_of_referenceValue? hnormal
  cases h with
  | compare op label args => rfl
  | compareWith op label args compiled => rfl
  | observe op label args layout => cases hargs

namespace Record

variable {r : Record}

lemma count_tab_line (hlabel : '\t' ∉ r.label.toList) :
    r.line.toList.count '\t' ≤ 2 ∧ (r.normal = none → r.line.toList.count '\t' ≤ 1) := by
  have hzero : r.label.toList.count '\t' = 0 := List.count_eq_zero.mpr hlabel
  have hword : ∀ word, (Text.decimal word).toList.count '\t' = 0 :=
    fun word => List.count_eq_zero.mpr (Text.tab_notMem_decimal word)
  unfold Record.line
  cases r.layout <;> cases r.normal <;>
    simp [String.toList_append, List.count_append, hzero, hword]

lemma newline_notMem_line (hlabel : '\n' ∉ r.label.toList) : '\n' ∉ r.line.toList := by
  have hword : ∀ word, '\n' ∉ (Text.decimal word).toList :=
    Text.notMem_decimal (by decide) (by decide)
  have hleft : '\n' ∉ "\t normal: ".toList := by decide
  have hright : '\n' ∉ "\tcompiled:".toList := by decide
  unfold Record.line
  cases r.layout <;> cases r.normal <;>
    simp only [String.toList_append, List.mem_append, hlabel, hword, hleft, hright, or_self,
      not_false_eq_true]

/-- The reader and the analysis agree on a record, if its label has no tab and a reference value is
never left out of the line. -/
lemma showsDifference_line (hlabel : '\t' ∉ r.label.toList)
    (hlayout : ∀ normal, r.normal = some normal → r.layout = .comparison) :
    Text.showsDifference r.line = r.differs := by
  cases hnormal : r.normal with
  | none =>
    have htabs := (count_tab_line hlabel).2 hnormal
    rw [Text.showsDifference_of_count_lt (by omega), differs, hnormal]
  | some normal =>
    have hread := Text.readColumns?_columns hlabel (Text.tab_notMem_decimal normal)
      (Text.tab_notMem_decimal r.compiled)
    have hinj : Text.decimal normal = Text.decimal r.compiled ↔ normal = r.compiled :=
      Text.decimal_injective.eq_iff
    rw [line_of_comparison (hlayout normal hnormal) hnormal, Text.showsDifference, hread, differs,
      hnormal, Bool.eq_iff_iff]
    simp only [bne_iff_ne, ne_eq, hinj]

end Record

/-! ## The lines of a report -/

/-- The line that an event puts into a report, without its end. -/
def Event.line? : Event → Option String
  | heading text => some text
  | record r => some r.line
  | finish => none

/-- The heading that an event announces. -/
def Event.heading? : Event → Option String
  | heading text => some text
  | _ => none

/-- The lines of a report about a suite whose probes have these records. -/
def Suite.lines (suite : Suite) (records : List Record) : List String :=
  (suite.events records).filterMap Event.line?

lemma Event.flatMap_bytes_text (events : List Event) :
    events.flatMap (Event.bytes .text)
      = (events.filterMap Event.line?).flatMap fun line => Text.bytes line ++ [0x0a] := by
  have hend : Text.bytes "\n" = [0x0a] := by decide
  induction events with
  | nil => rfl
  | cons event events ih =>
    rw [List.flatMap_cons, ih, List.filterMap_cons]
    cases event <;> simp [Event.bytes, Event.fragments, Event.line?, hend]

lemma Event.length_filterMap_line? (events : List Event) :
    (events.filterMap Event.line?).length
      = (events.filterMap Event.heading?).length + (events.filterMap Event.record?).length := by
  induction events with
  | nil => rfl
  | cons event events ih =>
    rw [List.filterMap_cons, List.filterMap_cons, List.filterMap_cons]
    cases event <;> simp only [Event.line?, Event.heading?, Event.record?, List.length_cons, ih] <;>
      omega

lemma ProbeGroup.filterMap_heading?_eventsAll (groups : List ProbeGroup) (records : List Record) :
    (eventsAll groups records).filterMap Event.heading? = groups.filterMap (·.heading) := by
  have hrecords : ∀ records : List Record,
      (records.map Event.record).filterMap Event.heading? = [] := by
    intro records
    rw [List.filterMap_map, List.filterMap_eq_nil_iff]
    intro r _
    rfl
  induction groups generalizing records with
  | nil => rfl
  | cons g groups ih =>
    rw [eventsAll, List.filterMap_append, ih, ProbeGroup.events, List.filterMap_append, hrecords]
    cases hg : g.heading <;> simp [Event.heading?, hg]

lemma Suite.filterMap_heading?_events (suite : Suite) (records : List Record) :
    (suite.events records).filterMap Event.heading? = suite.groups.filterMap (·.heading) := by
  rw [Suite.events, List.filterMap_append, ProbeGroup.filterMap_heading?_eventsAll]
  simp [Event.heading?]

section Run

variable {σ ω : Type} {suite : Suite} {records : List Record}

lemma Suite.length_lines (hlength : records.length = suite.probes.length) :
    (suite.lines records).length = suite.groups.countP (·.heading.isSome) + suite.size := by
  rw [Suite.lines, Event.length_filterMap_line?, suite.filterMap_heading?_events,
    Suite.filterMap_record?_events hlength, List.length_filterMap_eq_countP, hlength,
    suite.length_probes]

lemma Suite.exists_group_of_heading {text : String}
    (h : Event.heading text ∈ suite.events records) : ∃ g ∈ suite.groups, text ∈ g.heading := by
  have hmem : text ∈ (suite.events records).filterMap Event.heading? :=
    List.mem_filterMap.mpr ⟨_, h, rfl⟩
  rw [suite.filterMap_heading?_events] at hmem
  exact List.mem_filterMap.mp hmem

lemma Suite.mem_of_record_mem_events (hlength : records.length = suite.probes.length) {r : Record}
    (h : Event.record r ∈ suite.events records) : r ∈ records := by
  have hmem : r ∈ (suite.events records).filterMap Event.record? :=
    List.mem_filterMap.mpr ⟨_, h, rfl⟩
  rwa [Suite.filterMap_record?_events hlength] at hmem

/-- Every line is a heading or belongs to a record. -/
lemma Suite.forall_mem_lines (hlength : records.length = suite.probes.length) {P : String → Prop}
    (hheading : ∀ g ∈ suite.groups, ∀ text ∈ g.heading, P text)
    (hrecord : ∀ r ∈ records, P r.line) : ∀ line ∈ suite.lines records, P line := by
  intro line hline
  obtain ⟨event, hevent, heq⟩ := List.mem_filterMap.mp hline
  cases event with
  | heading text =>
    obtain rfl : text = line := Option.some.inj heq
    obtain ⟨g, hg, htext⟩ := Suite.exists_group_of_heading hevent
    exact hheading g hg text htext
  | record r =>
    obtain rfl : r.line = line := Option.some.inj heq
    exact hrecord r (Suite.mem_of_record_mem_events hlength hevent)
  | finish => cases heq

/-- Headings show no difference, so the lines that do are those of records that differ. -/
lemma Suite.countP_showsDifference_lines (hlength : records.length = suite.probes.length)
    (hheading : ∀ g ∈ suite.groups, ∀ text ∈ g.heading, Text.Plain text)
    (hrecord : ∀ r ∈ records, Text.showsDifference r.line = r.differs) :
    (suite.lines records).countP Text.showsDifference = records.countP Record.differs := by
  have hevents : ∀ event ∈ suite.events records,
      (event.line?.map Text.showsDifference).getD false
        = (event.record?.map Record.differs).getD false := by
    intro event hevent
    cases event with
    | heading text =>
      obtain ⟨g, hg, htext⟩ := Suite.exists_group_of_heading hevent
      have htabs : text.toList.count '\t' = 0 :=
        List.count_eq_zero.mpr (hheading g hg text htext).tab
      exact Text.showsDifference_of_count_lt (by omega)
    | record r => exact hrecord r (Suite.mem_of_record_mem_events hlength hevent)
    | finish => rfl
  calc (suite.lines records).countP Text.showsDifference
      = (suite.events records).countP fun event =>
          (event.line?.map Text.showsDifference).getD false := List.countP_filterMap
    _ = (suite.events records).countP fun event =>
          (event.record?.map Record.differs).getD false :=
        List.countP_congr fun event hevent => by rw [hevents event hevent]
    _ = ((suite.events records).filterMap Event.record?).countP Record.differs :=
        List.countP_filterMap.symm
    _ = records.countP Record.differs := by rw [Suite.filterMap_record?_events hlength]

/-- **The text of a report hides no mismatch.**  Let all probes of a suite be made by the
constructors, and let no heading and no label have a tab or a line end in it.  If a run that reports
as text succeeds, with whatever backend and writer, the writer holds one line for each heading and
one for each probe, and nothing else.  The lines whose two columns show different texts are as many
as the analysis counts in its mismatch, and there are none if it finds nothing.  The reader that
counts them takes a line for a comparison exactly if it has the form of one. -/
theorem Suite.transcript_shows_mismatches {w : Writer ω} {held : ω → List UInt8}
    (hw : w.Holds held) (backend : Backend σ) (suite : Suite) (s : σ) (t : ω) (ht : held t = [])
    (records : List Record) (hmade : ∀ p ∈ suite.probes, p.Made)
    (hheadings : ∀ g ∈ suite.groups, ∀ heading ∈ g.heading, Text.Plain heading)
    (hlabels : ∀ p ∈ suite.probes, Text.Plain p.label)
    (h : (suite.run backend (Sink.report .text w) s t).result = .ok records) :
    ∃ lines : List String,
      held (suite.run backend (Sink.report .text w) s t).sink
        = lines.flatMap (fun line => Text.bytes line ++ [0x0a]) ∧
      (∀ line ∈ lines, '\n' ∉ line.toList) ∧
      lines.length = suite.groups.countP (·.heading.isSome) + suite.size ∧
      (∀ line ∈ lines, Text.showsDifference line = true ↔ ∃ label normal compiled : String,
        line = label ++ "\t normal: " ++ normal ++ "\tcompiled:" ++ compiled ∧
          normal ≠ compiled) ∧
      ((analyze records = .ok () ∧ lines.countP Text.showsDifference = 0) ∨
        ∃ entries, analyze records
          = .error (.mismatch (lines.countP Text.showsDifference) entries)) := by
  have hlength : records.length = suite.probes.length := by
    rw [Suite.length_of_run h, suite.length_probes]
  have hrecords : ∀ r ∈ records, Text.Plain r.label ∧
      ∀ normal, r.normal = some normal → r.layout = .comparison := by
    intro r hr
    obtain ⟨s', hanswered⟩ := Suite.answered_of_run h
    obtain ⟨under, p, value, hmem, -, rfl, -⟩ := hanswered.exists_probe_of_mem hr
    have hp : p ∈ suite.probes := by
      rw [← suite.map_snd_placed]
      exact List.mem_map_of_mem hmem
    exact ⟨hlabels p hp, fun normal hnormal => (hmade p hp).layout_eq hnormal⟩
  refine ⟨suite.lines records, ?_, ?_, Suite.length_lines hlength, ?_, ?_⟩
  · rw [Suite.held_of_run hw h, ht, List.nil_append, Event.flatMap_bytes_text, Suite.lines]
  · refine Suite.forall_mem_lines hlength ?_ ?_
    · intro g hg text htext
      exact (hheadings g hg text htext).newline
    · intro r hr
      exact Record.newline_notMem_line (hrecords r hr).1.newline
  · refine Suite.forall_mem_lines hlength ?_ ?_
    · intro g hg text htext
      have htabs : text.toList.count '\t' = 0 :=
        List.count_eq_zero.mpr (hheadings g hg text htext).tab
      exact Text.showsDifference_iff (by omega)
    · intro r hr
      exact Text.showsDifference_iff (Record.count_tab_line (hrecords r hr).1.tab).1
  · have hcount := Suite.countP_showsDifference_lines hlength hheadings fun r hr =>
      Record.showsDifference_line (hrecords r hr).1.tab (hrecords r hr).2
    rw [hcount]
    by_cases hzero : records.countP Record.differs = 0
    · exact .inl ⟨analyze_eq_ok_iff.mpr hzero, hzero⟩
    · exact .inr (analyze_of_ne_zero hzero)

end Run

/-- A suite whose labels and heading look like columns, but for the tabs. -/
def Suite.lookAlikes : Suite :=
  ⟨[⟨some " normal: 1 compiled:2", [.compare .greater "wrong answer" [2, 1],
      .compare .even " normal: 3" [4], .observe .odd " normal: 1 compiled:" [3] .bare]⟩,
    ⟨none, [.compareWith .factorial "wrong literal" [5] (.literal 12),
      .compare .lesser "right answer" [1, 2], .observe .equal "not asked" [1, 1] .comparison]⟩]⟩

/-- Two of the seven lines show a difference, and the analysis counts two.  The writer has a limit
that the report does not reach. -/
theorem Suite.transcript_shows_mismatches_lookAlikes :
    ∃ (records : List Record) (lines entries : List String),
      (Suite.lookAlikes.run (Backend.scripted "scripted" [7, 3, 2, 1, 0])
        (Sink.report .text (Writer.bounded ⟨some 300, .takeNone, false⟩)) 0 {}).result
          = .ok records ∧
      (Suite.lookAlikes.run (Backend.scripted "scripted" [7, 3, 2, 1, 0])
        (Sink.report .text (Writer.bounded ⟨some 300, .takeNone, false⟩)) 0 {}).sink.bytes
          = lines.flatMap (fun line => Text.bytes line ++ [0x0a]) ∧
      lines.length = 7 ∧ lines.countP Text.showsDifference = 2 ∧
      analyze records = .error (.mismatch 2 entries) := by
  have hrun : (Suite.lookAlikes.run (Backend.scripted "scripted" [7, 3, 2, 1, 0])
      (Sink.report .text (Writer.bounded ⟨some 300, .takeNone, false⟩)) 0 {}).result = .ok [
        ⟨some " normal: 1 compiled:2", "test_function_greater", "wrong answer", some [2, 1], some 1,
          some [2, 1], 7, .comparison⟩,
        ⟨some " normal: 1 compiled:2", "even", " normal: 3", some [4], none, some [4], 3,
          .comparison⟩,
        ⟨some " normal: 1 compiled:2", "odd", " normal: 1 compiled:", none, none, some [3], 2,
          .bare⟩,
        ⟨none, "factorial", "wrong literal", some [5], some 120, none, 12, .comparison⟩,
        ⟨none, "test_function_lesser", "right answer", some [1, 2], some 1, some [1, 2], 1,
          .comparison⟩,
        ⟨none, "test_function_equal", "not asked", none, none, some [1, 1], 0, .comparison⟩] := by
    decide +kernel
  have hprobes : ∀ p ∈ Suite.lookAlikes.probes, p.Made ∧ Text.Plain p.label := by
    intro p hp
    simp only [Suite.lookAlikes, Suite.probes, List.flatMap_cons, List.flatMap_nil,
      List.append_nil, List.cons_append, List.nil_append, List.mem_cons, List.not_mem_nil,
      or_false] at hp
    rcases hp with rfl | rfl | rfl | rfl | rfl | rfl <;>
      exact ⟨by constructor, by decide, by decide⟩
  have hheadings : ∀ g ∈ Suite.lookAlikes.groups, ∀ heading ∈ g.heading, Text.Plain heading := by
    intro g hg heading hheading
    simp only [Suite.lookAlikes, List.mem_cons, List.not_mem_nil, or_false] at hg
    rcases hg with rfl | rfl <;> cases hheading
    exact ⟨by decide, by decide⟩
  obtain ⟨lines, hbytes, -, hlength, -, hverdict⟩ := Suite.transcript_shows_mismatches
    (Writer.keeps_bounded ⟨some 300, .takeNone, false⟩).holds _ Suite.lookAlikes 0 {} rfl _
    (fun p hp => (hprobes p hp).1) hheadings (fun p hp => (hprobes p hp).2) hrun
  rcases hverdict with ⟨hok, -⟩ | ⟨entries, hmismatch⟩
  · cases hok
  · obtain ⟨hcount, -⟩ := Failure.mismatch.inj (Except.error.inj hmismatch)
    refine ⟨_, lines, entries, hrun, hbytes, hlength, hcount.symm, ?_⟩
    rw [hmismatch, ← hcount]
    rfl

end Conformance
