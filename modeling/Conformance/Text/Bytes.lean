/-
# Texts as bytes

Reports are written as bytes, the UTF-8 form of their text.  A writer may stop in the middle of
a character, so reading bytes back as text allows for a last character that is cut off.
-/

namespace Conformance.Text

/-- The UTF-8 form of a text. -/
def bytes (text : String) : List UInt8 := text.toByteArray.data.toList

/-- The text that bytes spell, if they spell one. -/
def ofBytes? (bytes : List UInt8) : Option String := String.fromUTF8? ⟨bytes.toArray⟩

/-- The text of the first bytes of a longer text.  A character that is cut off at the end is shown
as the replacement character. -/
def ofLeadingBytes (bytes : List UInt8) : String :=
  match ofBytes? bytes with
  | some text => text
  | none =>
    (([1, 2, 3].findSome? fun cut => ofBytes? (bytes.take (bytes.length - cut))).getD "")
      ++ "\uFFFD"

end Conformance.Text
