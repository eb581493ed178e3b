/-
# Texts and their bytes

A report leaves the program as bytes, and statements about reports are made on texts.  The UTF-8
form of a text loses nothing, and it hides no character of the ASCII range: a byte below 128 stands
for the character of that number, since every byte of a longer form is above.
-/
import Conformance.Text.Bytes
import Mathlib.Data.List.Basic
import Mathlib.Tactic.Common

namespace Conformance.Text

@[simp] lemma bytes_append (text rest : String) :
    bytes (text ++ rest) = bytes text ++ bytes rest := by
  rw [bytes, String.toByteArray_append, ByteArray.data_append, Array.toList_append]
  rfl

lemma bytes_injective : Function.Injective bytes := by
  intro text text' h
  rw [← String.toByteArray_inj]
  exact ByteArray.ext (Array.toList_inj.mp h)

/-- Texts written one after the other are one text. -/
lemma flatMap_bytes (texts : List String) : texts.flatMap bytes = bytes (String.join texts) := by
  induction texts with
  | nil => rfl
  | cons text texts ih => rw [List.flatMap_cons, ih, String.join_cons, bytes_append]

/-- The bytes of a text are those of its characters. -/
lemma bytes_eq_flatMap (text : String) :
    bytes text = text.toList.flatMap String.utf8EncodeChar := by
  have hbytes : text.toByteArray = (text.toList.flatMap String.utf8EncodeChar).toByteArray := by
    conv_lhs => rw [← String.ofList_toList (s := text)]
    rw [String.toByteArray_ofList, List.utf8Encode]
  rw [bytes, hbytes, List.toList_data_toByteArray]

/-- Reading the bytes of a text gives the text back. -/
lemma ofBytes?_bytes (text : String) : ofBytes? (bytes text) = some text := by
  have hbytes : (⟨(bytes text).toArray⟩ : ByteArray) = text.toByteArray := rfl
  rw [ofBytes?, hbytes, String.fromUTF8?, dif_pos text.isValidUTF8]
  rfl

/-- A byte in the ASCII range is the number of its character. -/
lemma toNat_eq_of_mem_utf8EncodeChar {c : Char} {b : UInt8} (h : b ∈ String.utf8EncodeChar c)
    (hb : b.toNat < 0x80) : c.toNat = b.toNat := by
  have hc : c.toNat = c.val.toNat := rfl
  rw [String.utf8EncodeChar.eq_1] at h
  split at h
  · rw [List.mem_singleton] at h
    rw [h, UInt8.toNat_ofNat', hc]
    omega
  · -- each byte of a longer form is a sum that ends in 128 or more
    exfalso
    split at h
    · simp only [List.mem_cons, List.not_mem_nil, or_false] at h
      rcases h with rfl | rfl <;> rw [UInt8.toNat_ofNat'] at hb <;> omega
    · split at h
      · simp only [List.mem_cons, List.not_mem_nil, or_false] at h
        rcases h with rfl | rfl | rfl <;> rw [UInt8.toNat_ofNat'] at hb <;> omega
      · simp only [List.mem_cons, List.not_mem_nil, or_false] at h
        rcases h with rfl | rfl | rfl | rfl <;> rw [UInt8.toNat_ofNat'] at hb <;> omega

/-- A byte of a text that is in the ASCII range stands for a character of the text. -/
lemma exists_char_of_mem_bytes {text : String} {b : UInt8} (h : b ∈ bytes text)
    (hb : b.toNat < 0x80) : ∃ c ∈ text.toList, c.toNat = b.toNat := by
  rw [bytes_eq_flatMap, List.mem_flatMap] at h
  obtain ⟨c, hc, hmem⟩ := h
  exact ⟨c, hc, toNat_eq_of_mem_utf8EncodeChar hmem hb⟩

end Conformance.Text
