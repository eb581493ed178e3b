/-
# Fields that log directives ask for

A directive can ask for a field by its name, and also for its value.  A value is a number or a
pattern; it must be one that can be used, although no line has values.
-/
import Conformance.Log.Pattern.Check

namespace Conformance.Log

/-- What is left of an exponent is nothing, or a mark, a sign if there is one, and digits. -/
def isExponent : List Char → Bool
  | [] => true
  | mark :: rest =>
    let digits := match rest with
      | '+' :: digits | '-' :: digits => digits
      | _ => rest
    (mark == 'e' || mark == 'E') && !digits.isEmpty && digits.all Char.isDigit

/-- Whether a text without a sign is a number: digits with or without a point among them, and an
exponent, or the name of a number that has no digits. -/
def isUnsignedNumber (chars : List Char) : Bool :=
  let whole := chars.takeWhile Char.isDigit
  let (fraction, rest) := match chars.dropWhile Char.isDigit with
    | '.' :: rest => (rest.takeWhile Char.isDigit, rest.dropWhile Char.isDigit)
    | rest => ([], rest)
  (!(whole ++ fraction).isEmpty && isExponent rest)
    || ["inf", "infinity", "nan"].contains (String.ofList (chars.map Char.toLower))

/-- Whether a text is a number. -/
def isNumber : List Char → Bool
  | '+' :: rest | '-' :: rest => isUnsignedNumber rest
  | chars => isUnsignedNumber chars

/-- A field that a line must have, with its value if that matters. -/
structure FieldDemand where
  name : String
  value : Option String
  deriving DecidableEq

namespace FieldDemand

/-- The name and the value that a text gives: what follows a second equals sign does not count. -/
def ofText (text : String) : FieldDemand :=
  let chars := text.toList
  let value := match chars.dropWhile (· != '=') with
    | [] => none
    | _ :: rest => some (String.ofList (rest.takeWhile (· != '=')))
  ⟨String.ofList (chars.takeWhile (· != '=')), value⟩

/-- Whether the value can be used. -/
def check (demand : FieldDemand) : Except Pattern.Fault Unit :=
  match demand.value with
  | none => .ok ()
  | some value => if isNumber value.toList then .ok () else Pattern.check value

end FieldDemand

end Conformance.Log
