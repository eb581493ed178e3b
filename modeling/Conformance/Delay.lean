/-
# Delays

A delay is a span of time to the millisecond.  It is written as a number followed by a unit:
`ms`, `s` or `m`, and milliseconds when there is none.  Blanks around it do not count.
-/
import Conformance.Text.Blank
import Conformance.Text.Decimal
import Conformance.Text.Quoted

namespace Conformance

/-- A span of time: whole seconds, and the milliseconds beyond them. -/
structure Delay where
  /-- The whole seconds. -/
  seconds : UInt64
  /-- The milliseconds beyond them. -/
  millis : Fin 1000
  deriving DecidableEq

namespace Delay

/-- The units a delay is written in. -/
inductive Scale where
  | milliseconds
  | seconds
  | minutes
  deriving DecidableEq

/-- No delay at all. -/
def zero : Delay := ⟨0, 0⟩

/-- A number of milliseconds. -/
def ofMillis (n : Nat) : Delay := ⟨UInt64.ofNat (n / 1000), ⟨n % 1000, Nat.mod_lt n (by decide)⟩⟩

/-- A number of seconds, or the longest delay if there are more. -/
def ofSeconds (n : Nat) : Delay := ⟨UInt64.ofNat (min n (UInt64.size - 1)), 0⟩

/-- A number in some unit. -/
def ofScale : Scale → Nat → Delay
  | .milliseconds, n => ofMillis n
  | .seconds, n => ofSeconds n
  | .minutes, n => ofSeconds (60 * n)

/-- Takes the unit off the end of a delay.  `ms` is looked for before `s`. -/
def splitScale (text : List Char) : List Char × Scale :=
  match text.reverse with
  | 's' :: 'm' :: rest => (rest.reverse, .milliseconds)
  | 's' :: rest => (rest.reverse, .seconds)
  | 'm' :: rest => (rest.reverse, .minutes)
  | _ => (text, .milliseconds)

/-- The number in a delay: digits with an optional plus sign, and less than 2^64. -/
def readNumber? (text : List Char) : Option Nat :=
  let digits := match text with
    | '+' :: rest => rest
    | _ => text
  (Text.readDigits? digits).filter (· < UInt64.size)

/-- The delay a text stands for, apart from blanks around it. -/
def read? (text : List Char) : Option Delay :=
  let (number, scale) := splitScale text
  (readNumber? number).map (ofScale scale)

/-- A text that stands for no delay. -/
structure Invalid where
  /-- The text, without blanks around it. -/
  text : String
  deriving DecidableEq

/-- The text shown for it. -/
def Invalid.message (e : Invalid) : String := "invalid duration: " ++ Text.quote e.text

/-- The delay a text stands for. -/
def parse (text : String) : Except Invalid Delay :=
  let trimmed := Text.trim text
  match read? trimmed.toList with
  | some delay => .ok delay
  | none => .error ⟨trimmed⟩

/-- Three digits after a point, without zeros at the end. -/
def fraction (millis : Nat) : String :=
  let digits := [millis / 100, millis / 10 % 10, millis % 10].map Nat.digitChar
  Text.dropEndWhile (· == '0') (String.ofList digits)

/-- A delay in its largest unit. -/
def text (d : Delay) : String :=
  if d.seconds = 0 then
    if d.millis = 0 then "0ns" else d.millis.val.repr ++ "ms"
  else if d.millis = 0 then d.seconds.toNat.repr ++ "s"
  else d.seconds.toNat.repr ++ "." ++ fraction d.millis.val ++ "s"

end Delay

end Conformance
