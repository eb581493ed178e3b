/-
# Reading a line from its right end

The label of a record may be any text.  It may contain tabs, or titles of columns with numbers
behind them, so a line cannot be read from its left end.  At the right end stands the value of the
compiled side, and the characters of a number end where something else begins.  `Text.readLastWord?`
takes the number off the right end of a text; it gives back what was written there, provided that
the text before it does not itself end in a digit or a minus sign (`Text.EndsClear`).  The title of
a column never does.

So a tagged line is read by taking off a number and a title, and a comparison is read by doing so
twice: up to its last title it is a tagged line, with the label and the first column in the place of
the label.  In a bare line nothing stands between the label and the number, and there it is the
label that must end clear.

The main result is `Record.line_read_from_right`.
-/
import Conformance.Proofs.FalseAlarms
import Mathlib.Data.List.DropRight

namespace Conformance

namespace Text

/-! ## The number at the end of a text -/

/-- A character of a numeral. -/
def isNumeralChar (c : Char) : Bool := c == '-' || c.isDigit

/-- The text does not end in a character of a numeral. -/
def EndsClear (text : String) : Prop :=
  ∀ c ∈ text.toList.getLast?, c ≠ '-' ∧ c.isDigit = false

lemma endsClear_of_getLast? {text : String} {c : Char} (h : text.toList.getLast? = some c)
    (hminus : c ≠ '-') (hdigit : c.isDigit = false) : EndsClear text := by
  intro d hd
  obtain rfl : c = d := Option.some.inj (h.symm.trans hd)
  exact ⟨hminus, hdigit⟩

/-- Takes the number off the right end of a text. -/
def readLastWord? (text : String) : Option (String × Int32) :=
  match readWord? (text.toList.rtakeWhile isNumeralChar) with
  | some (word, []) => some (.ofList (text.toList.rdropWhile isNumeralChar), word)
  | _ => none

lemma isNumeralChar_of_mem_decimal {word : Int32} {c : Char} (h : c ∈ (decimal word).toList) :
    isNumeralChar c = true := by
  rcases mem_decimal h with rfl | hdigit
  · rfl
  · rw [isNumeralChar, hdigit, Bool.or_true]

lemma EndsClear.head_reverse {text : String} (h : EndsClear text) {c : Char} {rest : List Char}
    (hrest : text.toList.reverse = c :: rest) : ¬ isNumeralChar c = true := by
  have hlast : c ∈ text.toList.getLast? := by
    rw [List.getLast?_eq_head?_reverse, hrest]
    rfl
  obtain ⟨hminus, hdigit⟩ := h c hlast
  simp [isNumeralChar, hminus, hdigit]

/-- The characters of the number are those of its numeral, and no more. -/
lemma rtakeWhile_append_decimal {text : String} (h : EndsClear text) (word : Int32) :
    (text ++ decimal word).toList.rtakeWhile isNumeralChar = (decimal word).toList ∧
      (text ++ decimal word).toList.rdropWhile isNumeralChar = text.toList := by
  -- read backwards, the numeral comes first, and it ends where the text begins
  have hnumeral : ∀ c ∈ (decimal word).toList.reverse, isNumeralChar c = true :=
    fun c hc => isNumeralChar_of_mem_decimal (List.mem_reverse.mp hc)
  rw [List.rtakeWhile, List.rdropWhile, String.toList_append, List.reverse_append,
    List.takeWhile_append_of_pos hnumeral, List.dropWhile_append_of_pos hnumeral]
  cases hrest : text.toList.reverse with
  | nil =>
    rw [List.reverse_eq_nil_iff] at hrest
    simp [hrest]
  | cons c rest =>
    have hc := h.head_reverse hrest
    rw [List.takeWhile_cons_of_neg hc, List.dropWhile_cons_of_neg hc, List.append_nil,
      List.reverse_reverse, ← hrest, List.reverse_reverse]
    exact ⟨rfl, rfl⟩

/-- A number that was written at the end of a text is read back. -/
lemma readLastWord?_append_decimal {text : String} (h : EndsClear text) (word : Int32) :
    readLastWord? (text ++ decimal word) = some (text, word) := by
  obtain ⟨htake, hdrop⟩ := rtakeWhile_append_decimal h word
  have hread := readWord?_decimal_append word noDigitNext_nil
  rw [List.append_nil] at hread
  rw [readLastWord?, htake, hdrop, hread, String.ofList_toList]

/-! ## Columns at the end of a line -/

/-- Takes a column with a number off the right end of a line. -/
def readLastColumn? (title line : String) : Option (String × Int32) :=
  match readLastWord? line with
  | some (text, word) =>
    (text.toList.dropSuffix? title.toList).map fun before => (.ofList before, word)
  | none => none

/-- The label and the two values of a comparison, from the right end of its line. -/
def readComparison? (line : String) : Option (String × Int32 × Int32) :=
  match readLastColumn? "\tcompiled:" line with
  | some (before, compiled) =>
    (readLastColumn? "\t normal: " before).map fun (label, normal) => (label, normal, compiled)
  | none => none

lemma EndsClear.append_left {title : String} (h : EndsClear title) (hne : title.toList ≠ [])
    (before : String) : EndsClear (before ++ title) := by
  intro c hc
  rw [String.toList_append, List.getLast?_append_of_ne_nil _ hne] at hc
  exact h c hc

lemma readLastColumn?_append {title : String} (h : EndsClear title) (hne : title.toList ≠ [])
    (before : String) (word : Int32) :
    readLastColumn? title (before ++ title ++ decimal word) = some (before, word) := by
  have hdrop : (before ++ title).toList.dropSuffix? title.toList = some before.toList :=
    List.dropSuffix?_eq_some_iff.mpr ⟨title.toList, String.toList_append, beq_self_eq_true _⟩
  rw [readLastColumn?, readLastWord?_append_decimal (h.append_left hne before)]
  simp only [hdrop, Option.map_some, String.ofList_toList]

lemma endsClear_compiled : EndsClear "\tcompiled:" :=
  endsClear_of_getLast? (c := ':') rfl (by decide) (by decide)

lemma endsClear_normal : EndsClear "\t normal: " :=
  endsClear_of_getLast? (c := ' ') rfl (by decide) (by decide)

lemma readComparison?_columns (label : String) (normal compiled : Int32) :
    readComparison? (label ++ "\t normal: " ++ decimal normal ++ "\tcompiled:" ++ decimal compiled)
      = some (label, normal, compiled) := by
  -- behind its last title the line is a tagged one, with everything else as the label
  have hcompiled := readLastColumn?_append endsClear_compiled (by decide)
    (label ++ "\t normal: " ++ decimal normal) compiled
  have hnormal := readLastColumn?_append endsClear_normal (by decide) label normal
  simp only [readComparison?, hcompiled, hnormal, Option.map_some]

end Text

open Text

/-! ## The line of a record -/

namespace Record

variable {r r' : Record}

/-- A record that is laid out as a tagged line: as such, or as a comparison that has nothing to
compare with. -/
def IsTagged (r : Record) : Prop :=
  r.layout = .tagged ∨ (r.layout = .comparison ∧ r.normal = none)

lemma IsTagged.line_eq (h : r.IsTagged) :
    r.line = r.label ++ "\tcompiled:" ++ decimal r.compiled := by
  rcases h with hlayout | ⟨hlayout, hnormal⟩
  · simp only [line, hlayout]
  · simp only [line, hlayout, hnormal]

lemma line_of_bare (h : r.layout = .bare) : r.line = r.label ++ decimal r.compiled := by
  simp only [line, h]

lemma readComparison?_line {normal : Int32} (hlayout : r.layout = .comparison)
    (hnormal : r.normal = some normal) :
    readComparison? r.line = some (r.label, normal, r.compiled) := by
  rw [line_of_comparison hlayout hnormal, readComparison?_columns]

lemma readLastColumn?_line (h : r.IsTagged) :
    readLastColumn? "\tcompiled:" r.line = some (r.label, r.compiled) := by
  rw [h.line_eq, readLastColumn?_append endsClear_compiled (by decide)]

lemma readLastWord?_line (h : r.layout = .bare) (hlabel : EndsClear r.label) :
    readLastWord? r.line = some (r.label, r.compiled) := by
  rw [line_of_bare h, readLastWord?_append_decimal hlabel]

/-- **A line can be read from its right end.**  There is a reader for each of the three forms of a
line, and what it reads is what was written, whatever the label contains; in a bare line the label
must not end in a digit or a minus sign.  So two records with lines of the same form have the same
line exactly if they have the same label and the same values, the value of the reference included
where the line shows it. -/
theorem line_read_from_right (r r' : Record) :
    (∀ normal normal' : Int32, r.layout = .comparison → r.normal = some normal →
      r'.layout = .comparison → r'.normal = some normal' →
      readComparison? r.line = some (r.label, normal, r.compiled) ∧
      (r.line = r'.line ↔
        r.label = r'.label ∧ r.normal = r'.normal ∧ r.compiled = r'.compiled)) ∧
    (r.IsTagged → r'.IsTagged →
      readLastColumn? "\tcompiled:" r.line = some (r.label, r.compiled) ∧
      (r.line = r'.line ↔ r.label = r'.label ∧ r.compiled = r'.compiled)) ∧
    (r.layout = .bare → r'.layout = .bare → EndsClear r.label → EndsClear r'.label →
      readLastWord? r.line = some (r.label, r.compiled) ∧
      (r.line = r'.line ↔ r.label = r'.label ∧ r.compiled = r'.compiled)) := by
  refine ⟨fun normal normal' hr hnormal hr' hnormal' => ?_, fun hr hr' => ?_,
    fun hr hr' hlabel hlabel' => ?_⟩
  · have hread := readComparison?_line hr hnormal
    have hread' := readComparison?_line hr' hnormal'
    refine ⟨hread, fun h => ?_, ?_⟩
    · rw [h, hread'] at hread
      obtain ⟨hlabel, rfl, hcompiled⟩ : r'.label = r.label ∧ normal' = normal ∧
          r'.compiled = r.compiled := by simpa using hread
      exact ⟨hlabel.symm, hnormal.trans hnormal'.symm, hcompiled.symm⟩
    · rintro ⟨hlabel, hvalue, hcompiled⟩
      rw [hnormal, hnormal', Option.some.injEq] at hvalue
      rw [line_of_comparison hr hnormal, line_of_comparison hr' hnormal', hlabel, hvalue, hcompiled]
  · have hread := readLastColumn?_line hr
    have hread' := readLastColumn?_line hr'
    refine ⟨hread, fun h => ?_, ?_⟩
    · rw [h, hread'] at hread
      simpa [eq_comm] using hread
    · rintro ⟨hlabel, hcompiled⟩
      rw [hr.line_eq, hr'.line_eq, hlabel, hcompiled]
  · have hread := readLastWord?_line hr hlabel
    have hread' := readLastWord?_line hr' hlabel'
    refine ⟨hread, fun h => ?_, ?_⟩
    · rw [h, hread'] at hread
      simpa [eq_comm] using hread
    · rintro ⟨hlabel, hcompiled⟩
      rw [line_of_bare hr, line_of_bare hr', hlabel, hcompiled]

/-- A comparison whose label looks like the line of another one. -/
def nested : Record :=
  ⟨none, "factorial", "9\t normal: 1\tcompiled:2", some [9], some 3, some [9], -4, .comparison⟩

/-- The label is read back with its tabs and titles.  Without the value of the reference the same
record makes a tagged line, and in a bare line the label may contain a number as long as it does not
end in one. -/
theorem line_read_from_right_nested :
    nested.line = "9\t normal: 1\tcompiled:2\t normal: 3\tcompiled:-4" ∧
    readComparison? nested.line = some ("9\t normal: 1\tcompiled:2", 3, -4) ∧
    { nested with normal := none }.IsTagged ∧
    { nested with normal := none }.line ≠ { nested with normal := none, compiled := 4 }.line ∧
    EndsClear "7 -4 " ∧
    readLastWord? { nested with layout := .bare, label := "7 -4 " }.line = some ("7 -4 ", -4) := by
  obtain ⟨hcomparison, -, -⟩ := line_read_from_right nested nested
  obtain ⟨-, htagged, -⟩ := line_read_from_right { nested with normal := none }
    { nested with normal := none, compiled := 4 }
  obtain ⟨-, -, hbare⟩ := line_read_from_right { nested with layout := .bare, label := "7 -4 " }
    { nested with layout := .bare, label := "7 -4 " }
  have hclear : EndsClear "7 -4 " := endsClear_of_getLast? (c := ' ') rfl (by decide) (by decide)
  refine ⟨by decide +kernel, (hcomparison 3 3 rfl rfl rfl rfl).1, .inr ⟨rfl, rfl⟩, ?_, hclear,
    (hbare rfl rfl hclear hclear).1⟩
  intro hline
  obtain ⟨-, hcompiled⟩ := (htagged (.inr ⟨rfl, rfl⟩) (.inr ⟨rfl, rfl⟩)).2.mp hline
  exact absurd hcompiled (by decide)

/-- A bare label that ends in a digit or a minus sign runs into the number. -/
example :
    (Record.mk none "even" "4" none none none 21 .bare).line
        = (Record.mk none "even" "42" none none none 1 .bare).line ∧
      (Record.mk none "even" "-" none none none 1 .bare).line
        = (Record.mk none "even" "" none none none (-1) .bare).line := by
  decide +kernel

end Record

end Conformance
