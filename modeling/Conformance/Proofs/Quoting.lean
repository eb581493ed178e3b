/-
# Reading quoted texts back

A text that came from outside, such as a refused delay, the name of a backend or a path, is shown in
quotes.  Whatever it contains, the quoted form stands on one line and shows every character of it,
and nothing is lost: an escape is read back as the character it stands for, whatever comes behind it
(`Text.readQuotedChar?_quoteChar_append`).  Because no character is written with a bare quote, the
closing quote can be told from what it closes, and the quoted form determines the text and also
where the text ends.

The main results are `Text.quote_faithful` and, for the delays, `Delay.Invalid.message_faithful`.
-/
import Conformance.Delay
import Conformance.Proofs.JsonReader

namespace Conformance

namespace Text

/-! ## Hexadecimal numbers -/

/-- Reads hexadecimal digits; none at all stand for zero. -/
def readHex? (digits : List Char) : Option ℕ :=
  digits.foldlM (fun n c => (Reader.hexValue? c).map (16 * n + ·)) 0

lemma readHex?_toDigits (n : ℕ) : readHex? (Nat.toDigits 16 n) = some n := by
  induction n using Nat.strongRecOn with
  | ind n ih =>
    rw [Nat.toDigits_eq_if (by decide)]
    split
    case isTrue h => simp [readHex?, Reader.hexValue?_digitChar h]
    case isFalse h =>
      have hhigh := ih (n / 16) (by omega)
      have hlow := Reader.hexValue?_digitChar (Nat.mod_lt n (by decide : 0 < 16))
      rw [readHex?] at hhigh ⊢
      rw [List.foldlM_append, hhigh]
      simp [hlow, Nat.div_add_mod]

lemma exists_digitChar_of_mem_toDigits {n : ℕ} {c : Char} (h : c ∈ Nat.toDigits 16 n) :
    ∃ d < 16, c = d.digitChar := by
  induction n using Nat.strongRecOn with
  | ind n ih =>
    rw [Nat.toDigits_eq_if (by decide)] at h
    split at h
    case isTrue hn => exact ⟨n, hn, by simpa using h⟩
    case isFalse hn =>
      rcases List.mem_append.mp h with h | h
      · exact ih (n / 16) (by omega) h
      · exact ⟨n % 16, Nat.mod_lt n (by decide), by simpa using h⟩

/-! ## Characters -/

/-- The character that a short escape stands for, by its letter. -/
def quoteEscape? (letter : Char) : Option Char :=
  if letter = '"' ∨ letter = '\\' then some letter
  else if letter = 'n' then some '\n'
  else if letter = 'r' then some '\r'
  else if letter = 't' then some '\t'
  else if letter = '0' then some (Char.ofNat 0)
  else none

/-- Reads one character of a quoted text.  A bare quote is not one: it closes the text. -/
def readQuotedChar? : Reader Char
  | [] => none
  | '"' :: _ => none
  | '\\' :: 'u' :: '\x7b' :: text =>
    match text.dropWhile (· != '\x7d') with
    | [] => none
    | _ :: rest =>
      (readHex? (text.takeWhile (· != '\x7d'))).map fun n => (Char.ofNat n, rest)
  | '\\' :: letter :: rest => (quoteEscape? letter).map fun c => (c, rest)
  | c :: rest => some (c, rest)

/-- A short escape is read as the character it stands for. -/
lemma readQuotedChar?_escape {letter c : Char} (h : quoteEscape? letter = some c)
    (rest : List Char) : readQuotedChar? ('\\' :: letter :: rest) = some (c, rest) := by
  -- only the letter of a code escape has a case before this one
  have hletter : letter ≠ 'u' := by
    rintro rfl
    have hu : quoteEscape? 'u' = none := by decide
    rw [hu] at h
    cases h
  rw [readQuotedChar?.eq_def]
  simp_all

/-- A code escape is read as the character of that number. -/
lemma readQuotedChar?_code (n : ℕ) (rest : List Char) :
    readQuotedChar? ('\\' :: 'u' :: '\x7b' :: (Nat.toDigits 16 n ++ '\x7d' :: rest))
      = some (Char.ofNat n, rest) := by
  have hdigits : ∀ c ∈ Nat.toDigits 16 n, (c != '\x7d') = true := by
    intro c hc
    obtain ⟨d, hd, rfl⟩ := exists_digitChar_of_mem_toDigits hc
    have hall : ∀ d < 16, (Nat.digitChar d != '\x7d') = true := by decide
    exact hall d hd
  rw [readQuotedChar?, List.dropWhile_append_of_pos hdigits, List.takeWhile_append_of_pos hdigits,
    List.dropWhile_cons_of_neg (by decide), List.takeWhile_cons_of_neg (by decide), List.append_nil]
  simp only [readHex?_toDigits, Option.map_some]

/-- A character that needs no escape is read as it stands. -/
lemma readQuotedChar?_cons {c : Char} (hquote : c ≠ '"') (hbackslash : c ≠ '\\')
    (rest : List Char) : readQuotedChar? (c :: rest) = some (c, rest) := by
  rw [readQuotedChar?]
  · exact hquote
  · intro _ hc
    exact absurd hc hbackslash
  · intro _ _ hc
    exact absurd hc hbackslash

/-- A character is read as it was written. -/
lemma readQuotedChar?_quoteChar_append (c : Char) (rest : List Char) :
    readQuotedChar? ((quoteChar c).toList ++ rest) = some (c, rest) := by
  unfold quoteChar
  split_ifs with hquote hbackslash hnewline hreturn htab hzero hhidden
  · rw [hquote]
    exact readQuotedChar?_escape (by decide) rest
  · rw [hbackslash]
    exact readQuotedChar?_escape (by decide) rest
  · rw [hnewline]
    exact readQuotedChar?_escape (by decide) rest
  · rw [hreturn]
    exact readQuotedChar?_escape (by decide) rest
  · rw [htab]
    exact readQuotedChar?_escape (by decide) rest
  · have hc : c = Char.ofNat 0 := by rw [← hzero, Char.ofNat_toNat]
    rw [hc]
    exact readQuotedChar?_escape (by decide) rest
  · have hopen : "\\u\x7b".toList = ['\\', 'u', '\x7b'] := rfl
    have hclose : "\x7d".toList = ['\x7d'] := rfl
    rw [String.toList_append, String.toList_append, hopen, hclose, String.toList_ofList,
      List.append_assoc, List.append_assoc, List.singleton_append]
    have hread := readQuotedChar?_code c.toNat rest
    rw [Char.ofNat_toNat] at hread
    exact hread
  · have hsingle : c.toString.toList = [c] := String.toList_singleton c
    rw [hsingle]
    exact readQuotedChar?_cons hquote hbackslash rest

/-- A text whose characters all have a visible form. -/
def Visible (text : String) : Prop := ∀ c ∈ text.toList, isHidden c = false

instance : DecidablePred Visible := fun text =>
  List.decidableBAll (fun c : Char => isHidden c = false) text.toList

lemma Visible.append {text rest : String} (h : Visible text) (hrest : Visible rest) :
    Visible (text ++ rest) := by
  intro c hc
  rw [String.toList_append, List.mem_append] at hc
  exact hc.elim (h c) (hrest c)

lemma isHidden_digitChar : ∀ d < 16, isHidden (Nat.digitChar d) = false := by
  decide +kernel

/-- Every hidden character has an escape, and the escapes are visible. -/
lemma visible_quoteChar (c : Char) : Visible (quoteChar c) := by
  unfold quoteChar
  -- the escapes with a letter are fixed texts; then come the codes, and the characters themselves
  iterate 6
    split
    · decide +kernel
  split
  case isTrue =>
    have hopen : Visible "\\u\x7b" := by decide +kernel
    have hclose : Visible "\x7d" := by decide +kernel
    refine (hopen.append ?_).append hclose
    intro d hd
    rw [String.toList_ofList] at hd
    obtain ⟨digit, hdigit, rfl⟩ := exists_digitChar_of_mem_toDigits hd
    exact isHidden_digitChar digit hdigit
  case isFalse hvisible =>
    have hchars : c.toString.toList = [c] := String.toList_singleton c
    intro d hd
    rw [hchars, List.mem_singleton] at hd
    rw [hd]
    exact Bool.eq_false_iff.mpr hvisible

/-! ## Texts -/

lemma toList_quote (text : String) :
    (quote text).toList = '"' :: text.toList.flatMap (fun c => (quoteChar c).toList) ++ ['"'] := by
  have hquote : "\"".toList = ['"'] := rfl
  rw [quote, String.toList_append, String.toList_append, String.toList_join, List.flatMap_map,
    hquote, List.singleton_append]

lemma visible_quote (text : String) : Visible (quote text) := by
  intro c hc
  rw [toList_quote, List.cons_append, List.mem_cons, List.mem_append, List.mem_flatMap,
    List.mem_singleton] at hc
  have hquote : isHidden '"' = false := by decide +kernel
  rcases hc with rfl | ⟨d, -, hc⟩ | rfl
  · exact hquote
  · exact visible_quoteChar d c hc
  · exact hquote

/-- The first bare quote closes the text, so the characters before it are determined one by one. -/
lemma flatMap_quoteChar_inj {chars chars' rest rest' : List Char}
    (h : chars.flatMap (fun c => (quoteChar c).toList) ++ '"' :: rest
      = chars'.flatMap (fun c => (quoteChar c).toList) ++ '"' :: rest') :
    chars = chars' ∧ rest = rest' := by
  have hclose : ∀ after, readQuotedChar? ('"' :: after) = none := fun after => rfl
  induction chars generalizing chars' with
  | nil =>
    cases chars' with
    | nil => exact ⟨rfl, (List.cons.inj h).2⟩
    | cons c' chars' =>
      have hread := congrArg readQuotedChar? h
      rw [List.flatMap_nil, List.nil_append, hclose, List.flatMap_cons, List.append_assoc,
        readQuotedChar?_quoteChar_append] at hread
      cases hread
  | cons c chars ih =>
    have hread := congrArg readQuotedChar? h
    rw [List.flatMap_cons, List.append_assoc, readQuotedChar?_quoteChar_append] at hread
    cases chars' with
    | nil =>
      rw [List.flatMap_nil, List.nil_append, hclose] at hread
      cases hread
    | cons c' chars' =>
      rw [List.flatMap_cons, List.append_assoc, readQuotedChar?_quoteChar_append,
        Option.some.injEq, Prod.mk.injEq] at hread
      obtain ⟨rfl, htail⟩ := hread
      obtain ⟨rfl, hrest⟩ := ih htail
      exact ⟨rfl, hrest⟩

/-- **Quoting shows a text as it is.**  No character of a quoted text is hidden, so that in
particular there is no line end in it, and whatever comes behind it, the quoted text determines the
text and where the text ends. -/
theorem quote_faithful (text : String) :
    Visible (quote text) ∧
    ∀ (text' : String) (rest rest' : List Char),
      (quote text).toList ++ rest = (quote text').toList ++ rest' →
        text = text' ∧ rest = rest' := by
  refine ⟨visible_quote text, ?_⟩
  intro text' rest rest' h
  rw [toList_quote, toList_quote, List.append_assoc, List.append_assoc, List.singleton_append,
    List.singleton_append, List.cons_append, List.cons_append, List.cons.injEq] at h
  obtain ⟨htext, hrest⟩ := flatMap_quoteChar_inj h.2
  exact ⟨String.toList_inj.mp htext, hrest⟩

/-- One character for each way of writing: short escapes, a code, and two that stand as they are. -/
example :
    quote "\"\\\n\r\t\x00\u0301\u00e9'"
      = "\"\\\"\\\\\\n\\r\\t\\0\\u\x7b301\x7d\u00e9'\"" := by
  decide +kernel

end Text

/-- **The message about a refused delay determines what was refused**, and shows all of it. -/
theorem Delay.Invalid.message_faithful (e e' : Delay.Invalid) :
    Text.Visible e.message ∧ (e.message = e'.message → e.text = e'.text) := by
  have hintro : Text.Visible "invalid duration: " := by decide +kernel
  refine ⟨hintro.append (Text.visible_quote e.text), ?_⟩
  intro h
  have hquotes : (Text.quote e.text).toList ++ [] = (Text.quote e'.text).toList ++ [] := by
    rw [(String.append_right_inj _).mp h]
  exact ((Text.quote_faithful e.text).2 e'.text [] [] hquotes).1

end Conformance
