/-
# Reading records back from JSON

A record is written as one JSON object in a fixed form: no blanks, the members in a fixed order, and
one way to write each value.  Here is a reader for that form.  `Reader.Inverts` says of a reader and
a writer that what was written is read back, whatever stands behind it; each piece of the form has
one lemma of this shape, and `readRecord?_json` puts them together.

The layout of a record is not written, so what is read back is the rest of the record, its
*content*.
-/
import Conformance.Report.Json
import Conformance.Proofs.Numerals

namespace Conformance

/-- A record without its layout. -/
structure Record.Content where
  /-- The title of the group the probe belongs to, if the group has one. -/
  group : Option String
  /-- The symbol of the function. -/
  function : String
  /-- The text printed before the values. -/
  label : String
  /-- The arguments of the reference. -/
  referenceArgs : Option (List Int32)
  /-- The value of the reference. -/
  normal : Option Int32
  /-- The arguments of the compiled function, `none` if a literal was reported in its place. -/
  compiledArgs : Option (List Int32)
  /-- The value of the compiled function, or the literal. -/
  compiled : Int32
  deriving DecidableEq

/-- What a record says, without how it is laid out. -/
def Record.content (r : Record) : Record.Content :=
  ⟨r.group, r.function, r.label, r.referenceArgs, r.normal, r.compiledArgs, r.compiled⟩

/-- A reader takes a value off the front of a text and leaves the rest of the text. -/
abbrev Reader (α : Type) : Type := List Char → Option (α × List Char)

namespace Reader

variable {α : Type} {read : Reader α} {write : α → String} {next : List Char → Prop}

/-- What was written is read back, provided that the text goes on as the reader needs it to. -/
def Inverts (read : Reader α) (write : α → String) (next : List Char → Prop) : Prop :=
  ∀ (value : α) (rest : List Char), next rest →
    read ((write value).toList ++ rest) = some (value, rest)

lemma inverts_word : Inverts Text.readWord? Text.decimal Text.NoDigitNext :=
  fun word _ h => Text.readWord?_decimal_append word h

/-! ## Strings -/

/-- The value of a hexadecimal digit. -/
def hexValue? (c : Char) : Option ℕ :=
  if c.isDigit then some (c.toNat - 48)
  else if 97 ≤ c.toNat ∧ c.toNat ≤ 102 then some (c.toNat - 87)
  else none

/-- The character that a short escape stands for, by its letter. -/
def shortEscape? (letter : Char) : Option Char :=
  if letter = '"' ∨ letter = '\\' then some letter
  else if letter = 'b' then some (Char.ofNat 0x08)
  else if letter = 't' then some (Char.ofNat 0x09)
  else if letter = 'n' then some (Char.ofNat 0x0a)
  else if letter = 'f' then some (Char.ofNat 0x0c)
  else if letter = 'r' then some (Char.ofNat 0x0d)
  else none

/-- Puts a character in front of what was read after it. -/
def push (c : Char) (r : List Char × List Char) : List Char × List Char := (c :: r.1, r.2)

/-- Reads the characters of a string up to the closing quote. -/
def readChars? : Reader (List Char)
  | [] => none
  | '"' :: rest => some ([], rest)
  | '\\' :: 'u' :: '0' :: '0' :: a :: b :: rest =>
    match hexValue? a, hexValue? b with
    | some high, some low => (readChars? rest).map (push (Char.ofNat (16 * high + low)))
    | _, _ => none
  | '\\' :: letter :: rest =>
    match shortEscape? letter with
    | some c => (readChars? rest).map (push c)
    | none => none
  | c :: rest => if c.toNat < 0x20 then none else (readChars? rest).map (push c)

/-- Reads a string in quotes. -/
def readString? : Reader String
  | '"' :: rest => (readChars? rest).map fun r => (String.ofList r.1, r.2)
  | _ => none

lemma hexValue?_digitChar {n : ℕ} (h : n < 16) : hexValue? n.digitChar = some n := by
  have hall : ∀ n < 16, hexValue? n.digitChar = some n := by decide
  exact hall n h

/-- A short escape is read as the character it stands for. -/
lemma readChars?_shortEscape {letter c : Char} (h : shortEscape? letter = some c)
    (rest : List Char) :
    readChars? ('\\' :: letter :: rest) = (readChars? rest).map (push c) := by
  -- only the letter of a code escape has a case before this one
  have hletter : letter ≠ 'u' := by
    rintro rfl
    have hu : shortEscape? 'u' = none := by decide
    rw [hu] at h
    cases h
  rw [readChars?.eq_def]
  simp_all

/-- A code escape is read as the character of that number. -/
lemma readChars?_jsonCodeEscape {n : ℕ} (h : n < 0x20) (rest : List Char) :
    readChars? ((Text.jsonCodeEscape n).toList ++ rest)
      = (readChars? rest).map (push (Char.ofNat n)) := by
  have hchars : (Text.jsonCodeEscape n).toList
      = '\\' :: 'u' :: '0' :: '0' :: [(n / 16).digitChar, (n % 16).digitChar] := by
    rw [Text.jsonCodeEscape, String.toList_append, String.toList_ofList, String.toList_ofList]
    rfl
  have hsplit : 16 * (n / 16) + n % 16 = n := by omega
  rw [hchars, List.cons_append, List.cons_append, List.cons_append, List.cons_append,
    List.cons_append, List.cons_append, List.nil_append, readChars?,
    hexValue?_digitChar (by omega), hexValue?_digitChar (by omega)]
  simp only [hsplit]

/-- A character that needs no escape is read as it stands. -/
lemma readChars?_cons {c : Char} (hquote : c ≠ '"') (hbackslash : c ≠ '\\')
    (hcontrol : ¬ c.toNat < 0x20) (rest : List Char) :
    readChars? (c :: rest) = (readChars? rest).map (push c) := by
  rw [readChars?, if_neg hcontrol]
  · exact hquote
  · intro _ _ _ hc
    exact absurd hc hbackslash
  · intro _ _ hc
    exact absurd hc hbackslash

/-- A character is read as it was written. -/
lemma readChars?_jsonChar_append (c : Char) (rest : List Char) :
    readChars? ((Text.jsonChar c).toList ++ rest) = (readChars? rest).map (push c) := by
  have hcode : ∀ {n : ℕ}, c.toNat = n → c = Char.ofNat n := by
    rintro _ rfl
    exact (Char.ofNat_toNat c).symm
  unfold Text.jsonChar
  split_ifs with hquote hbackslash h08 h09 h0a h0c h0d hcontrol
  · rw [hquote]
    exact readChars?_shortEscape (by decide) rest
  · rw [hbackslash]
    exact readChars?_shortEscape (by decide) rest
  · rw [hcode h08]
    exact readChars?_shortEscape (by decide) rest
  · rw [hcode h09]
    exact readChars?_shortEscape (by decide) rest
  · rw [hcode h0a]
    exact readChars?_shortEscape (by decide) rest
  · rw [hcode h0c]
    exact readChars?_shortEscape (by decide) rest
  · rw [hcode h0d]
    exact readChars?_shortEscape (by decide) rest
  · rw [readChars?_jsonCodeEscape hcontrol, Char.ofNat_toNat]
  · have hsingle : c.toString.toList = [c] := String.toList_singleton c
    rw [hsingle]
    exact readChars?_cons hquote hbackslash hcontrol rest

lemma readChars?_flatMap_jsonChar (chars rest : List Char) :
    readChars? (chars.flatMap (fun c => (Text.jsonChar c).toList) ++ '"' :: rest)
      = some (chars, rest) := by
  induction chars with
  | nil => rw [List.flatMap_nil, List.nil_append, readChars?]
  | cons c chars ih =>
    rw [List.flatMap_cons, List.append_assoc, readChars?_jsonChar_append, ih, Option.map_some, push]

lemma inverts_string : Inverts readString? Text.jsonString fun _ => True := by
  intro text rest _
  have hchars : (Text.jsonString text).toList
      = '"' :: text.toList.flatMap (fun c => (Text.jsonChar c).toList) ++ ['"'] := by
    have hquote : "\"".toList = ['"'] := rfl
    rw [Text.jsonString, String.toList_append, String.toList_append, String.toList_join,
      List.flatMap_map, hquote, List.singleton_append]
  rw [hchars, List.cons_append, List.cons_append, List.append_assoc, List.singleton_append,
    readString?, readChars?_flatMap_jsonChar, Option.map_some, String.ofList_toList]

/-! ## Words -/

/-- Reads a text that is a word and nothing else. -/
def readWholeWord? (text : List Char) : Option Int32 :=
  match Text.readWord? text with
  | some (word, []) => some word
  | _ => none

/-- Reads words between brackets.  No word contains a bracket or a comma, so the closing bracket is
the next one there is, and the words are what the commas divide. -/
def readWords? : Reader (List Int32)
  | '[' :: text =>
    match text.dropWhile (· != ']') with
    | [] => none
    | _ :: rest =>
      if text.takeWhile (· != ']') = [] then some ([], rest)
      else (((text.takeWhile (· != ']')).splitOn ',').mapM readWholeWord?).map fun words =>
        (words, rest)
  | _ => none

lemma readWholeWord?_decimal (word : Int32) :
    readWholeWord? (Text.decimal word).toList = some word := by
  have hread := Text.readWord?_decimal_append word Text.noDigitNext_nil
  rw [List.append_nil] at hread
  rw [readWholeWord?, hread]

/-- What can be read piece by piece can be read as a whole. -/
lemma mapM_map_eq_some {β γ δ : Type} {f : β → γ} {g : γ → Option δ} {k : β → δ}
    (h : ∀ x, g (f x) = some (k x)) (xs : List β) : (xs.map f).mapM g = some (xs.map k) := by
  induction xs with
  | nil => rfl
  | cons x xs ih =>
    rw [List.map_cons, List.mapM_cons, h, ih]
    rfl

/-- What holds of the separator and of all the parts holds of the whole. -/
lemma forall_mem_intercalate {P : Char → Prop} {sep : List Char} {parts : List (List Char)}
    (hsep : ∀ c ∈ sep, P c) (hparts : ∀ part ∈ parts, ∀ c ∈ part, P c) :
    ∀ c ∈ sep.intercalate parts, P c := by
  induction parts with
  | nil => simp
  | cons part parts ih =>
    have hrest : ∀ c ∈ sep.intercalate parts, P c :=
      ih fun part' h => hparts part' (List.mem_cons_of_mem part h)
    have hpart : ∀ c ∈ part, P c := hparts part List.mem_cons_self
    cases parts with
    | nil => simpa using hpart
    | cons part' parts =>
      intro c hc
      rw [List.intercalate_cons_cons, List.mem_append, List.mem_append] at hc
      obtain (hc | hc) | hc := hc
      · exact hpart c hc
      · exact hsep c hc
      · exact hrest c hc

/-- Words with commas between them. -/
def commaSeparated (words : List Int32) : List Char :=
  [','].intercalate (words.map fun word => (Text.decimal word).toList)

lemma bracket_notMem_commaSeparated (words : List Int32) :
    ∀ c ∈ commaSeparated words, (c != ']') = true := by
  refine forall_mem_intercalate (by simp) ?_
  intro part hpart c hc
  obtain ⟨word, -, rfl⟩ := List.mem_map.mp hpart
  rw [bne_iff_ne]
  rintro rfl
  exact Text.notMem_decimal (by decide) (by decide) word hc

lemma commaSeparated_ne_nil (word : Int32) (words : List Int32) :
    commaSeparated (word :: words) ≠ [] := by
  have hword : (Text.decimal word).toList ≠ [] := Text.decimal_ne_nil word
  rw [commaSeparated, List.map_cons]
  cases words with
  | nil => simpa using hword
  | cons word' words => simp [List.intercalate_cons_cons]

/-- The commas divide the words again. -/
lemma mapM_splitOn_commaSeparated (word : Int32) (words : List Int32) :
    ((commaSeparated (word :: words)).splitOn ',').mapM readWholeWord? = some (word :: words) := by
  have hcomma : ∀ part ∈ (word :: words).map (fun word => (Text.decimal word).toList),
      ',' ∉ part := by
    intro part hpart
    obtain ⟨word, -, rfl⟩ := List.mem_map.mp hpart
    exact Text.notMem_decimal (by decide) (by decide) word
  rw [commaSeparated, List.splitOn_intercalate _ hcomma (by simp),
    mapM_map_eq_some readWholeWord?_decimal, List.map_id']

lemma toList_jsonWords (words : List Int32) :
    (Record.jsonWords words).toList = '[' :: (commaSeparated words ++ [']']) := by
  have hopen : "[".toList = ['['] := rfl
  have hclose : "]".toList = [']'] := rfl
  have hcomma : ",".toList = [','] := rfl
  rw [Record.jsonWords, String.toList_append, String.toList_append, String.toList_intercalate,
    List.map_map, hopen, hclose, hcomma, List.singleton_append]
  rfl

lemma inverts_words : Inverts readWords? Record.jsonWords fun _ => True := by
  intro words rest _
  have hbracket := bracket_notMem_commaSeparated words
  have htake : (commaSeparated words ++ ']' :: rest).takeWhile (· != ']')
      = commaSeparated words := by
    rw [List.takeWhile_append_of_pos hbracket, List.takeWhile_cons_of_neg (by decide),
      List.append_nil]
  have hdrop : (commaSeparated words ++ ']' :: rest).dropWhile (· != ']') = ']' :: rest := by
    rw [List.dropWhile_append_of_pos hbracket, List.dropWhile_cons_of_neg (by decide)]
  rw [toList_jsonWords, List.cons_append, List.append_assoc, List.singleton_append, readWords?,
    hdrop, htake]
  -- without words there is nothing between the brackets, which is not a list of one part
  cases words with
  | nil => rfl
  | cons word words =>
    simp only [if_neg (commaSeparated_ne_nil word words), mapM_splitOn_commaSeparated,
      Option.map_some]

/-! ## Values that may be missing -/

/-- Reads `null`, or else a value. -/
def readOption? {α : Type} (read : Reader α) : Reader (Option α) := fun text =>
  match text.dropPrefix? "null".toList with
  | some rest => some (none, rest)
  | none => (read text).map fun r => (some r.1, r.2)

lemma dropPrefix?_null {c : Char} (h : c ≠ 'n') (rest : List Char) :
    (c :: rest).dropPrefix? "null".toList = none := by
  have hnull : "null".toList = 'n' :: ['u', 'l', 'l'] := rfl
  rw [hnull, List.dropPrefix?, if_neg (by simpa using h)]

/-- A value that does not begin as `null` does can be told from a missing one. -/
lemma Inverts.option (h : Inverts read write next)
    (hnull : ∀ value, ∃ c chars, (write value).toList = c :: chars ∧ c ≠ 'n') :
    Inverts (readOption? read) (Record.jsonOption write) next := by
  intro value? rest hrest
  cases value? with
  | none => rw [readOption?, Record.jsonOption, Text.dropPrefix?_append]
  | some value =>
    obtain ⟨c, chars, hchars, hc⟩ := hnull value
    have hprefix : ((write value).toList ++ rest).dropPrefix? "null".toList = none := by
      rw [hchars, List.cons_append, dropPrefix?_null hc]
    simp only [readOption?, Record.jsonOption, hprefix, h value rest hrest, Option.map_some]

lemma inverts_optionalWord :
    Inverts (readOption? Text.readWord?) (Record.jsonOption Text.decimal) Text.NoDigitNext := by
  refine inverts_word.option fun word => ?_
  cases hchars : (Text.decimal word).toList with
  | nil => exact absurd hchars (Text.decimal_ne_nil word)
  | cons c chars =>
    refine ⟨c, chars, rfl, ?_⟩
    rintro rfl
    refine Text.notMem_decimal (c := 'n') (by decide) (by decide) word ?_
    rw [hchars]
    exact List.mem_cons_self

lemma inverts_optionalWords :
    Inverts (readOption? readWords?) (Record.jsonOption Record.jsonWords) fun _ => True :=
  inverts_words.option fun words => ⟨'[', _, toList_jsonWords words, by decide⟩

/-! ## Objects -/

/-- Reads a member of an object: its key, a colon, its value, and the text that closes it. -/
def readMember? {α : Type} (key : String) (read : Reader α) (closing : String) : Reader α :=
  fun text =>
    match text.dropPrefix? (Text.jsonString key ++ ":").toList with
    | none => none
    | some text =>
      match read text with
      | none => none
      | some (value, text) => (text.dropPrefix? closing.toList).map fun rest => (value, rest)

/-- A member with the text that closes it. -/
def memberChars (key value closing : String) : List Char :=
  (Record.jsonMember key value ++ closing).toList

lemma memberChars_append (key value closing : String) (rest : List Char) :
    memberChars key value closing ++ rest
      = (Text.jsonString key ++ ":").toList ++ (value.toList ++ (closing.toList ++ rest)) := by
  rw [memberChars, Record.jsonMember, String.toList_append, String.toList_append,
    List.append_assoc, List.append_assoc]

lemma Inverts.member (h : Inverts read write next) (key closing : String)
    (hclosing : ∀ rest, next (closing.toList ++ rest)) (value : α) (rest : List Char) :
    readMember? key read closing (memberChars key (write value) closing ++ rest)
      = some (value, rest) := by
  simp only [readMember?, memberChars_append, Text.dropPrefix?_append, h value _ (hclosing rest),
    Option.map_some]

/-- The member of the group with the comma behind it, nothing if there is no group. -/
def groupChars : Option String → List Char
  | some group => memberChars "group" (Text.jsonString group) ","
  | none => []

/-- Reads the member of the group if it is there. -/
def readGroup? : Reader (Option String) := fun text =>
  match readMember? "group" readString? "," text with
  | some (group, rest) => some (some group, rest)
  | none => some (none, text)

/-- The two keys that an object can begin with differ in their first letter. -/
lemma readMember?_group_function (value : String) (rest : List Char) :
    readMember? "group" readString? "," (memberChars "function" value "," ++ rest) = none := by
  have hgroup : (Text.jsonString "group" ++ ":").toList = '"' :: 'g' :: "roup\":".toList := rfl
  have hfunction : (Text.jsonString "function" ++ ":").toList
      = '"' :: 'f' :: "unction\":".toList := rfl
  have hprefix : (memberChars "function" value "," ++ rest).dropPrefix?
      (Text.jsonString "group" ++ ":").toList = none := by
    rw [memberChars_append, hgroup, hfunction, List.cons_append, List.cons_append,
      List.dropPrefix?, if_pos (beq_self_eq_true _), List.dropPrefix?, if_neg (by decide)]
  rw [readMember?, hprefix]

lemma readGroup?_groupChars (group : Option String) (value : String) (rest : List Char) :
    readGroup? (groupChars group ++ (memberChars "function" value "," ++ rest))
      = some (group, memberChars "function" value "," ++ rest) := by
  cases group with
  | none => rw [readGroup?, groupChars, List.nil_append, readMember?_group_function]
  | some group =>
    rw [readGroup?, groupChars, inverts_string.member "group" "," fun _ => trivial]

/-- Reads a record as it is written, all of it but the layout. -/
def readRecord? : Reader Record.Content := fun text => do
  let text ← text.dropPrefix? "\x7b".toList
  let (group, text) ← readGroup? text
  let (function, text) ← readMember? "function" readString? "," text
  let (label, text) ← readMember? "label" readString? "," text
  let (referenceArgs, text) ← readMember? "reference_args" (readOption? readWords?) "," text
  let (normal, text) ← readMember? "normal" (readOption? Text.readWord?) "," text
  let (compiledArgs, text) ← readMember? "compiled_args" (readOption? readWords?) "," text
  let (compiled, text) ← readMember? "compiled" Text.readWord? "\x7d" text
  some (⟨group, function, label, referenceArgs, normal, compiledArgs, compiled⟩, text)

/-- A record as its members, each with the comma or the brace behind it. -/
lemma toList_json (r : Record) :
    r.json.toList = "\x7b".toList ++ (groupChars r.group
      ++ (memberChars "function" (Text.jsonString r.function) ","
      ++ (memberChars "label" (Text.jsonString r.label) ","
      ++ (memberChars "reference_args" (Record.jsonOption Record.jsonWords r.referenceArgs) ","
      ++ (memberChars "normal" (Record.jsonOption Text.decimal r.normal) ","
      ++ (memberChars "compiled_args" (Record.jsonOption Record.jsonWords r.compiledArgs) ","
      ++ memberChars "compiled" (Text.decimal r.compiled) "\x7d")))))) := by
  cases hgroup : r.group with
  | none =>
    simp only [Record.json, Record.jsonMembers, hgroup, groupChars, memberChars, List.nil_append,
      String.intercalate_cons_cons, String.intercalate_singleton, String.toList_append,
      List.append_assoc]
  | some group =>
    simp only [Record.json, Record.jsonMembers, hgroup, groupChars, memberChars, List.cons_append,
      List.nil_append, String.intercalate_cons_cons, String.intercalate_singleton,
      String.toList_append, List.append_assoc]

/-- What is read back from a record is its content. -/
lemma readRecord?_json (r : Record) (rest : List Char) :
    readRecord? (r.json.toList ++ rest) = some (r.content, rest) := by
  have hcomma : ∀ rest, Text.NoDigitNext (",".toList ++ rest) :=
    fun _ => Text.noDigitNext_cons (by decide)
  have hbrace : ∀ rest, Text.NoDigitNext ("\x7d".toList ++ rest) :=
    fun _ => Text.noDigitNext_cons (by decide)
  rw [toList_json]
  simp only [List.append_assoc, readRecord?, Text.dropPrefix?_append, readGroup?_groupChars,
    inverts_string.member _ "," fun _ => trivial,
    inverts_optionalWords.member _ "," fun _ => trivial,
    inverts_optionalWord.member _ "," hcomma, inverts_word.member _ "\x7d" hbrace,
    Option.bind_eq_bind, Option.bind_some, Record.content]

end Reader

end Conformance
