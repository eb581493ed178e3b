/-
# One JSON object on each line

A report in JSON is a sequence of lines, and each line is one record.  A program that reads it
divides the bytes at the line ends and reads each line by itself.  This works for all records: every
control in a text is escaped, so a line end never stands inside an object, and in the UTF-8 form no
other character can be taken for one.  `Record.splitOn_jsonLines` is the framing,
`Record.readReport?_jsonLines` says that the content of all records is read back, and
`Sink.json_report_framed_and_readable` puts both to a sink that is handed any events whatever.
-/
import Conformance.Proofs.Encoding
import Conformance.Proofs.JsonReader
import Conformance.Proofs.Transcript

namespace Conformance

/-! ## Texts without controls -/

namespace Text

/-- A text without characters below U+0020. -/
def ControlFree (text : String) : Prop := ∀ c ∈ text.toList, 0x20 ≤ c.toNat

instance : DecidablePred ControlFree := fun text =>
  List.decidableBAll (fun c : Char => 0x20 ≤ c.toNat) text.toList

lemma ControlFree.append {text rest : String} (h : ControlFree text) (hrest : ControlFree rest) :
    ControlFree (text ++ rest) := by
  intro c hc
  rw [String.toList_append, List.mem_append] at hc
  exact hc.elim (h c) (hrest c)

lemma ControlFree.intercalate {sep : String} {parts : List String} (hsep : ControlFree sep)
    (hparts : ∀ part ∈ parts, ControlFree part) : ControlFree (sep.intercalate parts) := by
  rw [ControlFree, String.toList_intercalate]
  refine Reader.forall_mem_intercalate hsep ?_
  intro chars hchars
  obtain ⟨part, hpart, rfl⟩ := List.mem_map.mp hchars
  exact hparts part hpart

lemma controlFree_decimal (word : Int32) : ControlFree (decimal word) := by
  intro c hc
  rcases mem_decimal hc with rfl | hdigit
  · decide
  · have hzero : '0'.toNat ≤ c.toNat := (Char.isDigit_iff_toNat.mp hdigit).1
    exact Nat.le_trans (by decide) hzero

lemma controlFree_jsonCodeEscape : ∀ n < 0x20, ControlFree (jsonCodeEscape n) := by
  decide

/-- Every control has an escape. -/
lemma controlFree_jsonChar (c : Char) : ControlFree (jsonChar c) := by
  unfold jsonChar
  -- the escapes with a letter are fixed texts; then come the codes, and the characters themselves
  iterate 7
    split
    · decide
  split
  case isTrue hcontrol => exact controlFree_jsonCodeEscape c.toNat hcontrol
  case isFalse hcontrol =>
    have hchars : c.toString.toList = [c] := String.toList_singleton c
    intro d hd
    rw [hchars, List.mem_singleton] at hd
    rw [hd]
    exact Nat.le_of_not_lt hcontrol

lemma controlFree_jsonString (text : String) : ControlFree (jsonString text) := by
  have hchars : ControlFree (String.join (text.toList.map jsonChar)) := by
    intro c hc
    rw [String.toList_join, List.mem_flatMap] at hc
    obtain ⟨part, hpart, hc⟩ := hc
    obtain ⟨d, -, rfl⟩ := List.mem_map.mp hpart
    exact controlFree_jsonChar d c hc
  have hquote : ControlFree "\"" := by decide
  exact (hquote.append hchars).append hquote

/-- In the bytes of a text without controls all numbers are 32 or more. -/
lemma ControlFree.le_of_mem_bytes {text : String} (h : ControlFree text) {b : UInt8}
    (hb : b ∈ bytes text) : 0x20 ≤ b := by
  by_contra hlt
  -- such a byte would be a character by itself
  have hsmall : b.toNat < 0x20 := UInt8.lt_iff_toNat_lt.mp (UInt8.not_le.mp hlt)
  obtain ⟨c, hc, heq⟩ := exists_char_of_mem_bytes hb (by omega)
  have hle := h c hc
  omega

end Text

/-! ## Lines -/

namespace Record

open Text (ControlFree)

lemma controlFree_jsonWords (words : List Int32) : ControlFree (jsonWords words) := by
  have hinner : ControlFree (",".intercalate (words.map Text.decimal)) := by
    refine ControlFree.intercalate (by decide) ?_
    intro part hpart
    obtain ⟨word, -, rfl⟩ := List.mem_map.mp hpart
    exact Text.controlFree_decimal word
  have hopen : ControlFree "[" := by decide
  have hclose : ControlFree "]" := by decide
  exact (hopen.append hinner).append hclose

lemma controlFree_jsonOption {α : Type} {render : α → String}
    (h : ∀ value, ControlFree (render value)) (value? : Option α) :
    ControlFree (jsonOption render value?) := by
  cases value? with
  | none => exact (by decide : ControlFree "null")
  | some value => exact h value

lemma controlFree_jsonMember (key : String) {value : String} (h : ControlFree value) :
    ControlFree (jsonMember key value) := by
  have hcolon : ControlFree ":" := by decide
  exact ((Text.controlFree_jsonString key).append hcolon).append h

/-- There are no line ends or other controls inside an object. -/
lemma controlFree_json (r : Record) : ControlFree r.json := by
  have hmembers : ∀ member ∈ r.jsonMembers, ControlFree member := by
    have hstring := Text.controlFree_jsonString
    have hword := Text.controlFree_decimal
    have hwords := controlFree_jsonOption controlFree_jsonWords
    intro member hmember
    rw [jsonMembers, List.mem_append] at hmember
    rcases hmember with hgroup | hrest
    · split at hgroup
      · rw [List.mem_singleton] at hgroup
        rw [hgroup]
        exact controlFree_jsonMember "group" (hstring _)
      · cases hgroup
    · simp only [List.mem_cons, List.not_mem_nil, or_false] at hrest
      rcases hrest with rfl | rfl | rfl | rfl | rfl | rfl
      · exact controlFree_jsonMember "function" (hstring r.function)
      · exact controlFree_jsonMember "label" (hstring r.label)
      · exact controlFree_jsonMember "reference_args" (hwords r.referenceArgs)
      · exact controlFree_jsonMember "normal" (controlFree_jsonOption hword r.normal)
      · exact controlFree_jsonMember "compiled_args" (hwords r.compiledArgs)
      · exact controlFree_jsonMember "compiled" (hword r.compiled)
  have hbrace : ControlFree "\x7b" := by decide
  have hinner : ControlFree (",".intercalate r.jsonMembers) :=
    ControlFree.intercalate (by decide) hmembers
  exact (hbrace.append hinner).append (by decide)

/-- The byte that ends a line. -/
def lineEnd : UInt8 := 0x0a

/-- Records as lines, each with its end. -/
def jsonLines (records : List Record) : List UInt8 :=
  records.flatMap fun r => Text.bytes r.json ++ [lineEnd]

lemma jsonLines_cons (r : Record) (records : List Record) :
    jsonLines (r :: records) = Text.bytes r.json ++ lineEnd :: jsonLines records := by
  rw [jsonLines, List.flatMap_cons, List.append_assoc, List.singleton_append]
  rfl

lemma lineEnd_notMem_json (r : Record) : lineEnd ∉ Text.bytes r.json := by
  intro h
  exact absurd ((controlFree_json r).le_of_mem_bytes h) (by decide)

/-- Dividing a report at the line ends gives one line for each record, and nothing after the last
line end. -/
lemma splitOn_jsonLines (records : List Record) :
    (jsonLines records).splitOn lineEnd = records.map (fun r => Text.bytes r.json) ++ [[]] := by
  induction records with
  | nil => exact List.splitOn_nil lineEnd
  | cons r records ih =>
    rw [jsonLines_cons, List.splitOn_append_cons_self_of_not_mem (lineEnd_notMem_json r), ih,
      List.map_cons, List.cons_append]

lemma count_lineEnd_jsonLines (records : List Record) :
    (jsonLines records).count lineEnd = records.length := by
  induction records with
  | nil => rfl
  | cons r records ih =>
    rw [jsonLines_cons, List.count_append, List.count_eq_zero_of_not_mem (lineEnd_notMem_json r),
      List.count_cons_self, ih, List.length_cons, Nat.zero_add]

/-- The only control in a report is the line end. -/
lemma eq_lineEnd_of_mem_jsonLines {records : List Record} {b : UInt8} (h : b ∈ jsonLines records)
    (hb : b < 0x20) : b = lineEnd := by
  obtain ⟨r, -, hmem⟩ := List.mem_flatMap.mp h
  rw [List.mem_append, List.mem_singleton] at hmem
  rcases hmem with hmem | hmem
  · exact absurd hb (UInt8.not_lt.mpr ((controlFree_json r).le_of_mem_bytes hmem))
  · exact hmem

/-! ## Reading a report -/

/-- Reads a record from the whole of a line. -/
def readLine? (line : List UInt8) : Option Content := do
  let text ← Text.ofBytes? line
  let (content, rest) ← Reader.readRecord? text.toList
  if rest = [] then some content else none

/-- Reads the records of a report, which must be complete up to the last line end. -/
def readReport? (report : List UInt8) : Option (List Content) :=
  if (report.splitOn lineEnd).getLast? = some [] then
    (report.splitOn lineEnd).dropLast.mapM readLine?
  else none

lemma readLine?_json (r : Record) : readLine? (Text.bytes r.json) = some r.content := by
  have hread : Reader.readRecord? r.json.toList = some (r.content, []) := by
    have h := Reader.readRecord?_json r []
    rwa [List.append_nil] at h
  simp only [readLine?, Text.ofBytes?_bytes, Option.bind_eq_bind, Option.bind_some, hread,
    if_pos]

/-- The content of all records is read back. -/
lemma readReport?_jsonLines (records : List Record) :
    readReport? (jsonLines records) = some (records.map content) := by
  rw [readReport?, splitOn_jsonLines, List.getLast?_concat, if_pos rfl, List.dropLast_concat,
    Reader.mapM_map_eq_some readLine?_json]

lemma json_eq_of_content_eq {r r' : Record} (h : r.content = r'.content) : r.json = r'.json := by
  obtain ⟨group, function, label, referenceArgs, normal, compiledArgs, compiled, layout⟩ := r
  obtain ⟨group', function', label', referenceArgs', normal', compiledArgs', compiled',
    layout'⟩ := r'
  simp only [content, Content.mk.injEq] at h
  obtain ⟨rfl, rfl, rfl, rfl, rfl, rfl, rfl⟩ := h
  rfl

/-- Two lists of records give the same report exactly if they say the same. -/
lemma jsonLines_eq_iff {records records' : List Record} :
    jsonLines records = jsonLines records' ↔ records.map content = records'.map content := by
  constructor
  · intro h
    -- both contents are read from the same bytes
    have hread := readReport?_jsonLines records
    rw [h, readReport?_jsonLines records'] at hread
    exact (Option.some.inj hread).symm
  · intro h
    induction records generalizing records' with
    | nil =>
      cases records' with
      | nil => rfl
      | cons r' records' => cases h
    | cons r records ih =>
      cases records' with
      | nil => cases h
      | cons r' records' =>
        rw [List.map_cons, List.map_cons, List.cons.injEq] at h
        rw [jsonLines_cons, jsonLines_cons, json_eq_of_content_eq h.1, ih h.2]

end Record

/-! ## Reports -/

lemma Event.flatMap_bytes_json (events : List Event) :
    events.flatMap (Event.bytes .json) = Record.jsonLines (events.filterMap Event.record?) := by
  induction events with
  | nil => rfl
  | cons event events ih =>
    rw [List.flatMap_cons, ih]
    cases event with
    | heading text => rfl
    | finish => rfl
    | record r =>
      have hend : Text.bytes "\n" = [Record.lineEnd] := by decide
      have hbytes : (Event.record r).bytes .json = Text.bytes r.json ++ [Record.lineEnd] := by
        simp [Event.bytes, Event.fragments, hend]
      have hrecord : (Event.record r).record? = some r := rfl
      rw [hbytes, List.filterMap_cons_some hrecord, Record.jsonLines_cons, List.append_assoc,
        List.singleton_append]

namespace Sink

variable {ω : Type} {w : Writer ω} {view : ω → Writer.Held}
  {flushed : Writer.Held → Except String Unit}

/-- What events in a row do to a writer without a limit. -/
lemma acceptAll_report_of_unlimited (hw : w.Keeps view none flushed) (format : Format)
    (events : List Event) (t : ω) :
    List.Forall₂ (fun event result => event ≠ .finish → result = .ok ()) events
        ((report format w).acceptAll events t).1 ∧
      (view ((report format w).acceptAll events t).2).bytes
        = (view t).bytes ++ events.flatMap (Event.bytes format) := by
  induction events generalizing t with
  | nil => exact ⟨.nil, (List.append_nil _).symm⟩
  | cons event events ih =>
    obtain ⟨hresult, hbytes, -⟩ := accept_report_of_unlimited format hw event t
    obtain ⟨hresults, hrest⟩ := ih ((report format w).accept event t).2
    refine ⟨.cons hresult hresults, ?_⟩
    rw [acceptAll, hrest, hbytes, List.flatMap_cons, List.append_assoc]

/-- **A JSON report is framed and can be read back.**  A sink that reports in JSON to a writer
without a limit accepts all events, and what it writes for them depends on the records alone.  It
has one line end for each record, right behind the object of that record, and no other control.
Dividing it into lines and reading each of them gives the content of all records in order.  So two
lists of events lead to the same bytes exactly if their records agree in everything but the
layout. -/
theorem json_report_framed_and_readable (hw : w.Keeps view none flushed) (events : List Event)
    (t : ω) :
    let records := events.filterMap Event.record?
    let written := Record.jsonLines records
    List.Forall₂ (fun event result => event ≠ .finish → result = .ok ()) events
        ((report .json w).acceptAll events t).1 ∧
      (view ((report .json w).acceptAll events t).2).bytes = (view t).bytes ++ written ∧
      written.splitOn 0x0a = records.map (fun r => Text.bytes r.json) ++ [[]] ∧
      written.count 0x0a = records.length ∧
      (∀ b ∈ written, b < 0x20 → b = 0x0a) ∧
      Record.readReport? written = some (records.map Record.content) ∧
      ∀ events' : List Event,
        ((view ((report .json w).acceptAll events t).2).bytes
            = (view ((report .json w).acceptAll events' t).2).bytes ↔
          records.map Record.content
            = (events'.filterMap Event.record?).map Record.content) := by
  intro records written
  have hbytes : ∀ events : List Event, (view ((report .json w).acceptAll events t).2).bytes
      = (view t).bytes ++ Record.jsonLines (events.filterMap Event.record?) := by
    intro events
    rw [(acceptAll_report_of_unlimited hw .json events t).2, Event.flatMap_bytes_json]
  refine ⟨(acceptAll_report_of_unlimited hw .json events t).1, hbytes events,
    Record.splitOn_jsonLines records, Record.count_lineEnd_jsonLines records,
    fun b => Record.eq_lineEnd_of_mem_jsonLines, Record.readReport?_jsonLines records, ?_⟩
  intro events'
  rw [hbytes, hbytes, List.append_cancel_left_eq]
  exact Record.jsonLines_eq_iff

/-- Records whose texts look like JSON themselves or need escapes, and records that differ in no
more than a missing value and an empty one. -/
def trickyEvents : List Event :=
  [.heading "two\nlines",
    .record ⟨none, "f", "\"\\ \n\x01 \u00e9", none, none, none, Int32.minValue, .bare⟩,
    .record ⟨some "", "f", "\"\\ \n\x01 \u00e9", some [], some 0, some [], Int32.minValue, .bare⟩,
    .heading "",
    .record ⟨some "null", "\x7b\x7d", "],[1", some [1, -2], none, some [-12], 7, .comparison⟩,
    .finish]

/-- The flush at the end fails, and the report can be read all the same. -/
theorem json_report_of_trickyEvents :
    (Writer.bounded ⟨none, .refuse, true⟩).Keeps id none (fun _ => .error "flush failed") ∧
    ∃ written : List UInt8,
      ((report .json (Writer.bounded ⟨none, .refuse, true⟩)).acceptAll trickyEvents {}).2.bytes
        = written ∧
      written.count 0x0a = 3 ∧
      Record.readReport? written = some [
        ⟨none, "f", "\"\\ \n\x01 \u00e9", none, none, none, Int32.minValue⟩,
        ⟨some "", "f", "\"\\ \n\x01 \u00e9", some [], some 0, some [], Int32.minValue⟩,
        ⟨some "null", "\x7b\x7d", "],[1", some [1, -2], none, some [-12], 7⟩] := by
  have hw := Writer.keeps_bounded ⟨none, .refuse, true⟩
  obtain ⟨-, hbytes, -, hcount, -, hread, -⟩ := json_report_framed_and_readable hw trickyEvents {}
  exact ⟨hw, _, hbytes, hcount, hread⟩

end Sink

end Conformance
