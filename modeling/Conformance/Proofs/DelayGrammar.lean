/-
# The grammar of delays

A delay is written as an optional plus sign, digits and a unit, with nothing between them and blanks
around it.  `Delay.Form` is such a way of writing, and `Delay.Form.Writes` says that it spells a
text: there is at least one digit, and the number is less than `2 ^ 64`.

A delay is read from its right end, where the unit is taken off before anything is known about the
rest.  The units overlap: `ms` ends with `s` and begins with `m`.  That the longest one is taken off
is right because what stands before a unit ends with a digit, and for the same reason a text can be
written in one way only.  `splitScale_append` is that fact, and `exists_suffix_of_splitScale` is its
converse.

The main result is `Delay.parse_accepts_grammar`.
-/
import Conformance.Delay
import Conformance.Proofs.Trimming
import Mathlib.Data.List.Induction
import Mathlib.Data.Nat.Digits.Defs

namespace Conformance

namespace Delay

/-! ## Written delays -/

/-- What can stand behind the number. -/
inductive Suffix where
  | none
  | ms
  | s
  | m
  deriving DecidableEq

namespace Suffix

/-- The characters of a unit. -/
def chars : Suffix → List Char
  | none => []
  | ms => ['m', 's']
  | s => ['s']
  | m => ['m']

/-- The unit that is meant. -/
def scale : Suffix → Scale
  | none | ms => .milliseconds
  | s => .seconds
  | m => .minutes

end Suffix

/-- A way to write a delay. -/
structure Form where
  /-- Whether there is a plus sign. -/
  plus : Bool
  /-- The digits, leading zeros included. -/
  digits : List Char
  /-- The unit. -/
  suffix : Suffix
  deriving DecidableEq

namespace Form

/-- The characters before the unit. -/
def numeral (form : Form) : List Char := (if form.plus then ['+'] else []) ++ form.digits

/-- All characters. -/
def chars (form : Form) : List Char := form.numeral ++ form.suffix.chars

/-- The number that the digits stand for, each counted by its place. -/
def number (form : Form) : ℕ :=
  Nat.ofDigits 10 (form.digits.reverse.map fun c => c.toNat - '0'.toNat)

/-- A form spells a text. -/
structure Writes (form : Form) (text : String) : Prop where
  chars_eq : form.chars = text.toList
  digits_ne_nil : form.digits ≠ []
  isDigit : ∀ c ∈ form.digits, c.isDigit = true
  number_lt : form.number < 2 ^ 64

/-- The delay that a form stands for.  Minutes are as many seconds as can be counted if they are
more than that. -/
def Denotes (form : Form) (d : Delay) : Prop :=
  match form.suffix with
  | .none | .ms => d.seconds.toNat = form.number / 1000 ∧ d.millis.val = form.number % 1000
  | .s => d.seconds.toNat = form.number ∧ d.millis.val = 0
  | .m => d.seconds.toNat = min (60 * form.number) (2 ^ 64 - 1) ∧ d.millis.val = 0

end Form

/-! ## The unit -/

/-- The unit is taken off whatever ends with neither of its letters. -/
lemma splitScale_append {number : List Char} (hs : number.getLast? ≠ some 's')
    (hm : number.getLast? ≠ some 'm') (suffix : Suffix) :
    splitScale (number ++ suffix.chars) = (number, suffix.scale) := by
  rw [← List.head?_reverse] at hs hm
  obtain ⟨reversed, rfl⟩ : ∃ reversed, number = List.reverse reversed :=
    ⟨number.reverse, (List.reverse_reverse number).symm⟩
  rw [List.reverse_reverse] at hs hm
  cases suffix with
  | ms => simp [splitScale, Suffix.chars, Suffix.scale]
  | s =>
    rcases reversed with _ | ⟨c, rest⟩
    · rfl
    · have hc : c ≠ 'm' := by simpa using hm
      simp [splitScale, Suffix.chars, Suffix.scale, hc]
  | m => simp [splitScale, Suffix.chars, Suffix.scale]
  | none =>
    rcases reversed with _ | ⟨c, rest⟩
    · rfl
    · have hc : c ≠ 'm' := by simpa using hm
      have hc' : c ≠ 's' := by simpa using hs
      simp [splitScale, Suffix.chars, Suffix.scale, hc, hc']

/-- What is taken off is a unit. -/
lemma exists_suffix_of_splitScale (text : List Char) :
    ∃ suffix : Suffix, text = (splitScale text).1 ++ suffix.chars ∧
      (splitScale text).2 = suffix.scale := by
  obtain ⟨reversed, rfl⟩ : ∃ reversed, text = List.reverse reversed :=
    ⟨text.reverse, (List.reverse_reverse text).symm⟩
  unfold splitScale
  rw [List.reverse_reverse]
  split
  · exact ⟨.ms, by simp [Suffix.chars], rfl⟩
  · exact ⟨.s, by simp [Suffix.chars], rfl⟩
  · exact ⟨.m, by simp [Suffix.chars], rfl⟩
  · exact ⟨.none, by simp [Suffix.chars], rfl⟩

/-! ## The number -/

/-- Reading digits from the left gives each its place. -/
lemma ofDigitChars_eq_ofDigits (digits : List Char) :
    Nat.ofDigitChars 10 digits 0
      = Nat.ofDigits 10 (digits.reverse.map fun c => c.toNat - '0'.toNat) := by
  induction digits using List.reverseRecOn with
  | nil => rfl
  | append_singleton digits c ih =>
    rw [Nat.ofDigitChars_append, ih, List.reverse_append, List.reverse_singleton,
      List.singleton_append, List.map_cons, Nat.ofDigits_cons, Nat.ofDigitChars_cons,
      Nat.ofDigitChars_nil, Nat.add_comm]

lemma readDigits?_eq_some_iff {digits : List Char} {n : ℕ} :
    Text.readDigits? digits = some n ↔
      digits ≠ [] ∧ (∀ c ∈ digits, c.isDigit = true) ∧ Nat.ofDigitChars 10 digits 0 = n := by
  simp only [Text.readDigits?, List.all_eq_true]
  split
  · rename_i h
    rw [Option.some.injEq]
    exact ⟨fun hvalue => ⟨h.1, h.2, hvalue⟩, fun hform => hform.2.2⟩
  · rename_i h
    simp only [reduceCtorEq, false_iff]
    rintro ⟨hne, hdigits, -⟩
    exact h ⟨hne, hdigits⟩

/-- A number is read exactly if it is an optional plus sign and digits, and not too large. -/
lemma readNumber?_eq_some_iff {text : List Char} {n : ℕ} :
    readNumber? text = some n ↔ ∃ (plus : Bool) (digits : List Char),
      text = (if plus then ['+'] else []) ++ digits ∧ digits ≠ [] ∧
      (∀ c ∈ digits, c.isDigit = true) ∧ Nat.ofDigitChars 10 digits 0 = n ∧ n < 2 ^ 64 := by
  have hsize : UInt64.size = 2 ^ 64 := rfl
  simp only [readNumber?, Option.filter_eq_some_iff, readDigits?_eq_some_iff, hsize,
    decide_eq_true_eq]
  constructor
  · intro h
    split at h
    · rename_i rest
      exact ⟨true, rest, rfl, h.1.1, h.1.2.1, h.1.2.2, h.2⟩
    · exact ⟨false, text, rfl, h.1.1, h.1.2.1, h.1.2.2, h.2⟩
  · rintro ⟨plus, digits, rfl, hne, hdigits, hvalue, hlt⟩
    cases plus with
    | true => exact ⟨⟨hne, hdigits, hvalue⟩, hlt⟩
    | false =>
      obtain ⟨c, rest, rfl⟩ := List.exists_cons_of_ne_nil hne
      have hc : c ≠ '+' := by
        rintro rfl
        exact absurd (hdigits '+' List.mem_cons_self) (by decide)
      simp only [Bool.false_eq_true, if_false, List.nil_append]
      split
      · rename_i heq
        exact absurd (List.cons.inj heq).1 hc
      · exact ⟨⟨hne, hdigits, hvalue⟩, hlt⟩

/-! ## The whole text -/

lemma Form.numeral_getLast? {form : Form} (hne : form.digits ≠ [])
    (hdigits : ∀ c ∈ form.digits, c.isDigit = true) {c : Char}
    (h : form.numeral.getLast? = some c) : c.isDigit = true := by
  apply hdigits
  rw [Form.numeral, List.getLast?_append_of_ne_nil _ hne] at h
  exact List.mem_of_getLast? h

lemma Form.Writes.splitScale_eq {form : Form} {text : String} (h : form.Writes text) :
    splitScale text.toList = (form.numeral, form.suffix.scale) := by
  have hlast : ∀ c, c.isDigit = false → form.numeral.getLast? ≠ some c := by
    intro c hc hsome
    have hdigit := Form.numeral_getLast? h.digits_ne_nil h.isDigit hsome
    rw [hc] at hdigit
    cases hdigit
  rw [← h.chars_eq]
  exact splitScale_append (hlast 's' (by decide)) (hlast 'm' (by decide)) form.suffix

/-- A text that is written in some form is read as the number in that form. -/
lemma Form.Writes.read?_eq {form : Form} {text : String} (h : form.Writes text) :
    read? text.toList = some (ofScale form.suffix.scale form.number) := by
  have hnumber : readNumber? form.numeral = some form.number :=
    readNumber?_eq_some_iff.mpr ⟨form.plus, form.digits, rfl, h.digits_ne_nil, h.isDigit,
      ofDigitChars_eq_ofDigits form.digits, h.number_lt⟩
  simp only [read?, h.splitScale_eq, hnumber, Option.map_some]

/-- Whatever is read is written in some form. -/
lemma exists_form_of_read? {text : String} {d : Delay} (h : read? text.toList = some d) :
    ∃ form : Form, form.Writes text := by
  simp only [read?, Option.map_eq_some_iff] at h
  obtain ⟨n, hn, -⟩ := h
  obtain ⟨suffix, htext, -⟩ := exists_suffix_of_splitScale text.toList
  obtain ⟨plus, digits, hnumeral, hne, hdigits, rfl, hlt⟩ := readNumber?_eq_some_iff.mp hn
  refine ⟨⟨plus, digits, suffix⟩, ?_, hne, hdigits, ?_⟩
  · rw [Form.chars, Form.numeral, ← hnumeral, ← htext]
  · rw [Form.number, ← ofDigitChars_eq_ofDigits]
    exact hlt

/-- The digits and the sign can be told apart. -/
lemma Form.numeral_inj {form form' : Form} (hdigits : ∀ c ∈ form.digits, c.isDigit = true)
    (hdigits' : ∀ c ∈ form'.digits, c.isDigit = true) (h : form.numeral = form'.numeral) :
    form.plus = form'.plus ∧ form.digits = form'.digits := by
  have hplus : ∀ {digits rest : List Char}, (∀ c ∈ digits, c.isDigit = true) →
      digits ≠ '+' :: rest := by
    rintro _ rest hall rfl
    exact absurd (hall '+' List.mem_cons_self) (by decide)
  simp only [Form.numeral] at h
  cases hp : form.plus <;> cases hp' : form'.plus <;> simp only [hp, hp'] at h
  · exact ⟨rfl, h⟩
  · exact absurd h (hplus hdigits)
  · exact absurd h.symm (hplus hdigits')
  · exact ⟨rfl, (List.cons.inj h).2⟩

/-- A text is written in one form at most. -/
lemma Form.Writes.unique {form form' : Form} {text : String} (h : form.Writes text)
    (h' : form'.Writes text) : form = form' := by
  have hsplit := h.splitScale_eq.symm.trans h'.splitScale_eq
  obtain ⟨hnumeral, -⟩ := Prod.mk.inj hsplit
  obtain ⟨hplus, hdigits⟩ := Form.numeral_inj h.isDigit h'.isDigit hnumeral
  have hsuffix : form.suffix.chars = form'.suffix.chars := by
    have hchars := h.chars_eq.trans h'.chars_eq.symm
    rw [Form.chars, Form.chars, hnumeral] at hchars
    exact List.append_cancel_left hchars
  have hinj : form.suffix = form'.suffix := by
    revert hsuffix
    cases form.suffix <;> cases form'.suffix <;> decide
  cases form
  cases form'
  rw [Form.mk.injEq]
  exact ⟨hplus, hdigits, hinj⟩

/-! ## The delay -/

/-- No count of seconds or milliseconds is reduced. -/
lemma Form.Writes.denotes_ofScale {form : Form} {text : String} (h : form.Writes text) :
    form.Denotes (ofScale form.suffix.scale form.number) := by
  have hlt := h.number_lt
  have hsize : UInt64.size - 1 = 2 ^ 64 - 1 := rfl
  have hmillis : (ofMillis form.number).seconds.toNat = form.number / 1000 :=
    UInt64.toNat_ofNat_of_lt' (show form.number / 1000 < 2 ^ 64 by omega)
  have hseconds : ∀ n, (ofSeconds n).seconds.toNat = min n (2 ^ 64 - 1) := by
    intro n
    rw [ofSeconds, hsize]
    exact UInt64.toNat_ofNat_of_lt' (show min n (2 ^ 64 - 1) < 2 ^ 64 by omega)
  unfold Form.Denotes
  cases form.suffix with
  | none => exact ⟨hmillis, rfl⟩
  | ms => exact ⟨hmillis, rfl⟩
  | s => exact ⟨(hseconds form.number).trans (by omega), rfl⟩
  | m => exact ⟨hseconds (60 * form.number), rfl⟩

lemma parse_eq (text : String) :
    parse text = (read? (Text.trim text).toList).elim (.error ⟨Text.trim text⟩) .ok := by
  -- opened by hand: the equation of the definition would evaluate the trimming
  delta parse
  dsimp only
  cases read? (Text.trim text).toList <;> rfl

/-- **A delay is read exactly if it is written by the grammar.**  Take the blanks off both ends of a
text.  If what is left is an optional plus sign, digits that stand for a number less than `2 ^ 64`,
and one of the four units, it is so in one way only, and the text is read as the delay which that
number and that unit stand for.  Nothing else is read: it is refused, and the message quotes what is
left. -/
theorem parse_accepts_grammar (text : String) :
    ∃ trimmed : String, Text.TrimsTo text trimmed ∧
      (∀ form : Form, form.Writes trimmed → ∃ d, parse text = .ok d ∧ form.Denotes d) ∧
      (∀ d, parse text = .ok d → ∃ form : Form, form.Writes trimmed ∧ form.Denotes d) ∧
      (∀ form form' : Form, form.Writes trimmed → form'.Writes trimmed → form = form') ∧
      ((¬ ∃ form : Form, form.Writes trimmed) → ∃ e, parse text = .error e ∧
        e.message = "invalid duration: " ++ Text.quote trimmed) := by
  have hread : ∀ {form : Form}, form.Writes (Text.trim text) →
      parse text = .ok (ofScale form.suffix.scale form.number) := by
    intro form hform
    rw [parse_eq, hform.read?_eq, Option.elim_some]
  refine ⟨Text.trim text, Text.trimsTo_trim text, ?_, ?_, ?_, ?_⟩
  · intro form hform
    exact ⟨_, hread hform, hform.denotes_ofScale⟩
  · intro d hd
    obtain ⟨form, hform⟩ : ∃ form : Form, form.Writes (Text.trim text) := by
      rw [parse_eq] at hd
      cases hdelay : read? (Text.trim text).toList with
      | none =>
        rw [hdelay] at hd
        cases hd
      | some delay => exact exists_form_of_read? hdelay
    obtain rfl := Except.ok.inj (hd.symm.trans (hread hform))
    exact ⟨form, hform, hform.denotes_ofScale⟩
  · intro form form' hform hform'
    exact hform.unique hform'
  · intro hnone
    have hrefused : read? (Text.trim text).toList = none := by
      rw [Option.eq_none_iff_forall_ne_some]
      intro d hd
      exact hnone (exists_form_of_read? hd)
    exact ⟨⟨Text.trim text⟩, by rw [parse_eq, hrefused, Option.elim_none], rfl⟩

end Delay

end Conformance
