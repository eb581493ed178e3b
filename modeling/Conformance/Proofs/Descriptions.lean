/-
# What a description tells

The description of a record is one line of text: the function with the arguments of the reference
and its value, then the compiled side.  Some of the parts may be missing, and the texts between the
parts occur within them as well.  A comma stands between two arguments and before the compiled side,
a minus sign begins a negative number and stands alone for a value that is missing, and a function
may be followed by an argument list or by the equals sign.

The line is read from its left end.  Each part shows where it ends: a function at the first space or
opening parenthesis, an argument list at its closing parenthesis, a number at the first character
that is not a digit.  A lemma for each part (`…_append_inj`) says that a line which begins with it
determines the part and the rest of the line.

The main result is `Record.describe_identifies_case`.
-/
import Conformance.Proofs.MismatchEntries

namespace Conformance

namespace Text

/-! ## Names -/

/-- A name goes on until a space or an opening parenthesis. -/
def IsName (text : List Char) : Prop := ' ' ∉ text ∧ '(' ∉ text

/-- The text begins with a character that ends a name. -/
def EndsName (text : List Char) : Prop := ∃ c rest, text = c :: rest ∧ (c = ' ' ∨ c = '(')

lemma endsName_space (rest : List Char) : EndsName (' ' :: rest) := ⟨' ', rest, rfl, .inl rfl⟩

lemma endsName_parenthesis (rest : List Char) : EndsName ('(' :: rest) := ⟨'(', rest, rfl, .inr rfl⟩

/-- A name does not go on with what ends it. -/
lemma eq_nil_of_isName_append {name more rest rest' : List Char} (hname : IsName (name ++ more))
    (hrest : EndsName rest) (h : rest = more ++ rest') : more = [] := by
  cases more with
  | nil => rfl
  | cons d more =>
    exfalso
    obtain ⟨c, tail, rfl, hc⟩ := hrest
    obtain ⟨rfl, -⟩ := List.cons.inj h
    rcases hc with rfl | rfl
    · exact hname.1 (by simp)
    · exact hname.2 (by simp)

/-- A name and the text after it. -/
lemma name_append_inj {name name' rest rest' : List Char} (hname : IsName name)
    (hname' : IsName name') (hrest : EndsName rest) (hrest' : EndsName rest')
    (h : name ++ rest = name' ++ rest') : name = name' ∧ rest = rest' := by
  rcases List.append_eq_append_iff.mp h with ⟨more, rfl, hmore⟩ | ⟨more, rfl, hmore⟩
  · obtain rfl := eq_nil_of_isName_append hname' hrest hmore
    exact ⟨(List.append_nil name).symm, hmore⟩
  · obtain rfl := eq_nil_of_isName_append hname hrest' hmore
    exact ⟨List.append_nil name', hmore.symm⟩

/-- A number begins with a minus sign or a digit. -/
lemma decimal_append_ne_cons {c : Char} (hminus : c ≠ '-') (hdigit : c.isDigit = false)
    (word : Int32) (rest rest' : List Char) : (decimal word).toList ++ rest ≠ c :: rest' := by
  intro h
  cases hd : (decimal word).toList with
  | nil => exact decimal_ne_nil word hd
  | cons d digits =>
    rw [hd, List.cons_append, List.cons.injEq] at h
    obtain ⟨rfl, -⟩ := h
    exact notMem_decimal hminus hdigit word (hd ▸ List.mem_cons_self)

/-- A minus sign alone is not the beginning of a number. -/
lemma decimal_append_ne_minus (word : Int32) (rest rest' : List Char) :
    (decimal word).toList ++ ',' :: rest ≠ '-' :: ',' :: rest' := by
  intro h
  have hnext : NoDigitNext (',' :: rest) := noDigitNext_cons (by decide)
  have hread := readWord?_decimal_append word hnext
  have hnone : readWord? ('-' :: ',' :: rest') = none := by
    simp [readWord?, readNatural?, readDigits?]
  rw [h, hnone] at hread
  cases hread

end Text

open Text

/-! ## Argument lists -/

/-- The text of an argument list after its first argument. -/
def moreInputs : List Int32 → List Char
  | [] => [')']
  | a :: rest => ',' :: ' ' :: ((decimal a).toList ++ moreInputs rest)

lemma toList_intercalate_decimal (a : Int32) (rest : List Int32) :
    (", ".intercalate ((a :: rest).map decimal)).toList ++ [')']
      = (decimal a).toList ++ moreInputs rest := by
  induction rest generalizing a with
  | nil => rw [List.map_singleton, String.intercalate_singleton, moreInputs]
  | cons b rest ih =>
    have hcomma : ", ".toList = [',', ' '] := rfl
    rw [List.map_cons, List.map_cons, String.intercalate_cons_cons, String.toList_append,
      String.toList_append, List.append_assoc, ← List.map_cons, ih b, hcomma, List.append_assoc]
    rfl

lemma toList_formatInputs_nil : (formatInputs []).toList = ['(', ')'] := rfl

lemma toList_formatInputs_cons (a : Int32) (rest : List Int32) :
    (formatInputs (a :: rest)).toList = '(' :: ((decimal a).toList ++ moreInputs rest) := by
  have hopen : "(".toList = ['('] := rfl
  have hclose : ")".toList = [')'] := rfl
  rw [formatInputs, String.toList_append, String.toList_append, hopen, hclose, List.append_assoc,
    toList_intercalate_decimal, List.singleton_append]

lemma exists_toList_formatInputs_eq_cons (args : List Int32) :
    ∃ rest, (formatInputs args).toList = '(' :: rest := by
  cases args with
  | nil => exact ⟨_, toList_formatInputs_nil⟩
  | cons a args => exact ⟨_, toList_formatInputs_cons a args⟩

lemma endsName_formatInputs (args : List Int32) (rest : List Char) :
    EndsName ((formatInputs args).toList ++ rest) := by
  obtain ⟨tail, htail⟩ := exists_toList_formatInputs_eq_cons args
  rw [htail]
  exact endsName_parenthesis _

lemma formatInputs_append_ne_space (args : List Int32) (rest rest' : List Char) :
    (formatInputs args).toList ++ rest ≠ ' ' :: rest' := by
  obtain ⟨tail, htail⟩ := exists_toList_formatInputs_eq_cons args
  rw [htail]
  intro h
  exact absurd (List.cons.inj h).1 (by decide)

lemma noDigitNext_moreInputs (args : List Int32) (rest : List Char) :
    NoDigitNext (moreInputs args ++ rest) := by
  cases args with
  | nil => exact noDigitNext_cons (by decide)
  | cons a args => exact noDigitNext_cons (by decide)

lemma moreInputs_append_inj {args args' : List Int32} {rest rest' : List Char}
    (h : moreInputs args ++ rest = moreInputs args' ++ rest') : args = args' ∧ rest = rest' := by
  induction args generalizing args' with
  | nil =>
    cases args' with
    | nil => exact ⟨rfl, (List.cons.inj h).2⟩
    | cons a args' => exact absurd (List.cons.inj h).1 (by decide)
  | cons a args ih =>
    cases args' with
    | nil => exact absurd (List.cons.inj h).1 (by decide)
    | cons a' args' =>
      simp only [moreInputs, List.cons_append, List.append_assoc, List.cons.injEq, true_and] at h
      obtain ⟨rfl, hrest⟩ :=
        decimal_append_inj (noDigitNext_moreInputs _ _) (noDigitNext_moreInputs _ _) h
      obtain ⟨rfl, rfl⟩ := ih hrest
      exact ⟨rfl, rfl⟩

lemma formatInputs_cons_append_ne_nil (a : Int32) (args : List Int32) (rest rest' : List Char) :
    (formatInputs (a :: args)).toList ++ rest ≠ (formatInputs []).toList ++ rest' := by
  rw [toList_formatInputs_cons, toList_formatInputs_nil, List.cons_append, List.cons_append,
    List.append_assoc]
  intro h
  exact decimal_append_ne_cons (by decide) (by decide) _ _ _ (List.cons.inj h).2

/-- An argument list and the text after it. -/
lemma formatInputs_append_inj {args args' : List Int32} {rest rest' : List Char}
    (h : (formatInputs args).toList ++ rest = (formatInputs args').toList ++ rest') :
    args = args' ∧ rest = rest' := by
  rcases args with _ | ⟨a, args⟩ <;> rcases args' with _ | ⟨a', args'⟩
  · exact ⟨rfl, List.append_cancel_left h⟩
  · exact absurd h.symm (formatInputs_cons_append_ne_nil _ _ _ _)
  · exact absurd h (formatInputs_cons_append_ne_nil _ _ _ _)
  · simp only [toList_formatInputs_cons, List.cons_append, List.append_assoc, List.cons.injEq,
      true_and] at h
    obtain ⟨rfl, hrest⟩ :=
      decimal_append_inj (noDigitNext_moreInputs _ _) (noDigitNext_moreInputs _ _) h
    obtain ⟨rfl, rfl⟩ := moreInputs_append_inj hrest
    exact ⟨rfl, rfl⟩

lemma formatInputs_injective : Function.Injective formatInputs := by
  intro args args' h
  have hchars : (formatInputs args).toList ++ [] = (formatInputs args').toList ++ [] := by rw [h]
  exact (formatInputs_append_inj hchars).1

/-! ## Descriptions -/

lemma Operation.isName_symbol (op : Operation) : IsName op.symbol.toList :=
  ⟨op.space_notMem_symbol, by cases op <;> decide⟩

namespace Record

/-- The arguments of the reference in a description. -/
def referenceText : Option (List Int32) → String
  | some args => formatInputs args
  | none => ""

/-- The value of the reference in a description. -/
def normalText : Option Int32 → String
  | some value => decimal value
  | none => "-"

/-- The compiled side in a description. -/
def compiledText (function : String) : Option (List Int32) → Int32 → String
  | some args, value => function ++ formatInputs args ++ " = " ++ decimal value
  | none, value => "literal " ++ decimal value

lemma describe_eq (r : Record) :
    r.describe = r.function ++ referenceText r.referenceArgs ++ " = " ++ normalText r.normal
      ++ ", compiled " ++ compiledText r.function r.compiledArgs r.compiled := by
  obtain ⟨group, function, label, referenceArgs, normal, compiledArgs, compiled, layout⟩ := r
  cases referenceArgs <;> cases normal <;> cases compiledArgs <;> rfl

lemma endsName_referenceText (args : Option (List Int32)) (rest : List Char) :
    EndsName ((referenceText args).toList ++ ' ' :: rest) := by
  cases args with
  | none => exact endsName_space rest
  | some args => exact endsName_formatInputs args _

/-- The arguments of the reference and the text after them. -/
lemma referenceText_append_inj {args args' : Option (List Int32)} {rest rest' : List Char}
    (h : (referenceText args).toList ++ ' ' :: rest
      = (referenceText args').toList ++ ' ' :: rest') :
    args = args' ∧ rest = rest' := by
  rcases args with _ | args <;> rcases args' with _ | args'
  · exact ⟨rfl, (List.cons.inj h).2⟩
  · exact absurd h.symm (formatInputs_append_ne_space _ _ _)
  · exact absurd h (formatInputs_append_ne_space _ _ _)
  · obtain ⟨rfl, hrest⟩ := formatInputs_append_inj h
    exact ⟨rfl, (List.cons.inj hrest).2⟩

/-- The value of the reference and the text after it.  A minus sign alone is told from a negative
number by the comma. -/
lemma normalText_append_inj {normal normal' : Option Int32} {rest rest' : List Char}
    (h : (normalText normal).toList ++ ',' :: rest = (normalText normal').toList ++ ',' :: rest') :
    normal = normal' ∧ rest = rest' := by
  rcases normal with _ | value <;> rcases normal' with _ | value'
  · exact ⟨rfl, (List.cons.inj (List.cons.inj h).2).2⟩
  · exact absurd h.symm (decimal_append_ne_minus _ _ _)
  · exact absurd h (decimal_append_ne_minus _ _ _)
  · obtain ⟨rfl, hrest⟩ :=
      decimal_append_inj (noDigitNext_cons (by decide)) (noDigitNext_cons (by decide)) h
    exact ⟨rfl, (List.cons.inj hrest).2⟩

/-- A call is not a literal: the name of its function ends with a parenthesis, and not with a
space. -/
lemma compiledText_some_ne_none {function : String} (hname : IsName function.toList)
    (args : List Int32) (value value' : Int32) :
    compiledText function (some args) value ≠ compiledText function none value' := by
  intro h
  have hchars := congrArg String.toList h
  have hliteral : "literal ".toList = "literal".toList ++ [' '] := rfl
  simp only [compiledText, String.toList_append, List.append_assoc, hliteral,
    List.singleton_append] at hchars
  obtain ⟨-, hrest⟩ := name_append_inj hname ⟨by decide, by decide⟩ (endsName_formatInputs _ _)
    (endsName_space _) hchars
  exact formatInputs_append_ne_space _ _ _ hrest

/-- The compiled side at the end of a description. -/
lemma compiledText_inj {function : String} (hname : IsName function.toList)
    {args args' : Option (List Int32)} {value value' : Int32}
    (h : compiledText function args value = compiledText function args' value') :
    args = args' ∧ value = value' := by
  rcases args with _ | args <;> rcases args' with _ | args'
  · exact ⟨rfl, decimal_injective ((String.append_right_inj _).mp h)⟩
  · exact absurd h.symm (compiledText_some_ne_none hname _ _ _)
  · exact absurd h (compiledText_some_ne_none hname _ _ _)
  · have hchars := congrArg String.toList h
    simp only [compiledText, String.toList_append, List.append_assoc] at hchars
    obtain ⟨rfl, hrest⟩ := formatInputs_append_inj (List.append_cancel_left hchars)
    exact ⟨rfl, decimal_injective (String.toList_inj.mp (List.append_cancel_left hrest))⟩

/-- The parts of a description, one after the other. -/
lemma describe_inj {r r' : Record} (hname : IsName r.function.toList)
    (hname' : IsName r'.function.toList) (h : r.describe = r'.describe) :
    r.function = r'.function ∧ r.referenceArgs = r'.referenceArgs ∧ r.normal = r'.normal ∧
      r.compiledArgs = r'.compiledArgs ∧ r.compiled = r'.compiled := by
  have hchars := congrArg String.toList h
  have hequals : " = ".toList = ' ' :: "= ".toList := rfl
  have hcomma : ", compiled ".toList = ',' :: " compiled ".toList := rfl
  simp only [describe_eq, String.toList_append, List.append_assoc, hequals, hcomma,
    List.cons_append] at hchars
  obtain ⟨hfunction, hchars⟩ := name_append_inj hname hname' (endsName_referenceText _ _)
    (endsName_referenceText _ _) hchars
  obtain ⟨hreference, hchars⟩ := referenceText_append_inj hchars
  obtain ⟨hnormal, hchars⟩ := normalText_append_inj (List.append_cancel_left hchars)
  have hcompiled := String.toList_inj.mp (List.append_cancel_left hchars)
  rw [← String.toList_inj.mp hfunction] at hcompiled
  obtain ⟨hargs, hvalue⟩ := compiledText_inj hname hcompiled
  exact ⟨String.toList_inj.mp hfunction, hreference, hnormal, hargs, hvalue⟩

/-- **A description identifies the case.**  Two records of operations have the same description
exactly if they agree in the function, the arguments and the value of the reference, and the
arguments and the value of the compiled side.  A part that is missing counts as different from every
part that is there, the empty argument list included.  In particular the text of an argument list
determines the list. -/
theorem describe_identifies_case :
    (∀ (r r' : Record) (op op' : Operation), r.function = op.symbol → r'.function = op'.symbol →
      (r.describe = r'.describe ↔
        r.function = r'.function ∧ r.referenceArgs = r'.referenceArgs ∧ r.normal = r'.normal ∧
          r.compiledArgs = r'.compiledArgs ∧ r.compiled = r'.compiled)) ∧
    Function.Injective formatInputs := by
  refine ⟨?_, formatInputs_injective⟩
  intro r r' op op' hop hop'
  constructor
  · intro h
    refine describe_inj ?_ ?_ h
    · rw [hop]
      exact op.isName_symbol
    · rw [hop']
      exact op'.isName_symbol
  · rintro ⟨hfunction, hreference, hnormal, hargs, hvalue⟩
    rw [describe_eq, describe_eq, hfunction, hreference, hnormal, hargs, hvalue]

/-- A self test that was not held against a reference. -/
def unasked : Record := ⟨none, "test_test", "self test ", none, none, some [], 0, .bare⟩

/-- Reference arguments that are missing are told from an empty list of them; the label is not
described. -/
theorem describe_identifies_case_unasked :
    unasked.function = Operation.selfTest.symbol ∧
    unasked.describe ≠ { unasked with referenceArgs := some [] }.describe ∧
    unasked.describe = { unasked with label := "again " }.describe := by
  obtain ⟨hiff, -⟩ := describe_identifies_case
  refine ⟨rfl, ?_, ?_⟩
  · intro h
    obtain ⟨-, hreference, -⟩ :=
      (hiff unasked { unasked with referenceArgs := some [] } .selfTest .selfTest rfl rfl).mp h
    cases hreference
  · exact (hiff unasked { unasked with label := "again " } .selfTest .selfTest rfl rfl).mpr
      ⟨rfl, rfl, rfl, rfl, rfl⟩

/-- A function that is not a symbol may contain what looks like an argument list. -/
example :
    (Record.mk none "f(1)" "" none none none 2 .bare).describe
      = (Record.mk none "f" "" (some [1]) none none 2 .bare).describe := by
  decide +kernel

end Record

end Conformance
