/-
# Reading the command line

Arguments are read from left to right.  The value of a setting may be attached to its name or
follow it as an argument of its own; in the second case it is kept as pending, and it is checked
only when the next flag that is known comes up, or when the arguments end.  An argument that is
not known, or a switch with a value, is noticed at once, also while a value is pending.

What the arguments leave open is filled from the environment, and then by the defaults.
-/
import Conformance.CommandLine.Halt
import Conformance.Settings

namespace Conformance.CommandLine

/-- The settings given so far. -/
structure Draft where
  backend : Option String := none
  startupDelay : Option Delay := none
  format : Option Format := none
  output : Option String := none
  summary : Bool := false
  completion : Option Shell := none
  deriving DecidableEq

namespace Draft

/-- Whether a setting has been given. -/
def has (d : Draft) : Setting → Bool
  | .backend => d.backend.isSome
  | .startupDelay => d.startupDelay.isSome
  | .format => d.format.isSome
  | .output => d.output.isSome
  | .completion => d.completion.isSome

/-- Gives a setting its value, whether or not it had one. -/
def set (d : Draft) (s : Setting) (value : String) : Except Halt Draft :=
  match s with
  | .backend => .ok { d with backend := some value }
  | .startupDelay =>
    match Delay.parse value with
    | .ok delay => .ok { d with startupDelay := some delay }
    | .error reason => .error (.invalidDelay value reason)
  | .format =>
    if value = "" then .error (.missingValue .format)
    else match Format.ofName? value with
      | some format => .ok { d with format := some format }
      | none => .error (.invalidValue .format value)
  | .output =>
    if value = "" then .error (.missingValue .output)
    else .ok { d with output := some value }
  | .completion =>
    if value = "" then .error (.missingValue .completion)
    else match Shell.ofName? value with
      | some shell => .ok { d with completion := some shell }
      | none => .error (.invalidValue .completion value)

/-- Gives a setting its value.  A setting is given once, and that is checked before the value
is. -/
def assign (d : Draft) (s : Setting) (value : String) : Except Halt Draft :=
  if d.has s then .error (.repeated (.setting s)) else d.set s value

/-- Turns a switch on; `long` says whether it was named in full. -/
def turnOn (d : Draft) (long : Bool) : Switch → Except Halt Draft
  | .summary =>
    if d.summary then .error (.repeated (.switch .summary)) else .ok { d with summary := true }
  | .help => .error (.help long)
  | .version => .error .version

end Draft

/-- How far the arguments have been read: what is given, and a setting that waits for its value or
whose value waits to be checked. -/
structure Reader where
  draft : Draft := {}
  pending : Option (Setting × Option String) := none
  deriving DecidableEq

namespace Reader

/-- Checks what is pending. -/
def settle (r : Reader) : Except Halt Draft :=
  match r.pending with
  | none => .ok r.draft
  | some (s, none) => .error (.missingValue s)
  | some (s, some value) => r.draft.assign s value

/-- Turns a switch on. -/
def turnOn (r : Reader) (long : Bool) (w : Switch) : Except Halt Reader := do
  let draft ← r.settle
  return ⟨← draft.turnOn long w, none⟩

/-- Gives a setting the value attached to it, or lets it wait for one. -/
def give (r : Reader) (s : Setting) (attached? : Option String) : Except Halt Reader := do
  let draft ← r.settle
  match attached? with
  | some value => return ⟨← draft.assign s value, none⟩
  | none => return ⟨draft, some (s, none)⟩

/-- Reads a flag by its long name, with the value attached to it after an equals sign. -/
def takeLong (r : Reader) (name : String) (attached? : Option String) : Except Halt Reader :=
  match Flag.ofLong? name with
  | none => .error (.unknownArgument ("--" ++ name))
  | some (.setting s) => r.give s attached?
  | some (.switch w) =>
    match attached? with
    | some value => .error (.unneededValue w value)
    | none => r.turnOn true w

/-- The value attached to a letter: what follows it, without one equals sign. -/
def attachedToLetter? : List Char → Option String
  | [] => none
  | '=' :: rest => some (String.ofList rest)
  | rest => some (String.ofList rest)

/-- Reads letters one after the other; the letter of a setting takes the rest as its value. -/
def takeLetters (r : Reader) : List Char → Except Halt Reader
  | [] => .ok r
  | letter :: rest =>
    match Flag.ofShort? letter with
    | none => .error (.unknownArgument ("-" ++ letter.toString))
    | some (.setting s) => r.give s (attachedToLetter? rest)
    | some (.switch w) => do takeLetters (← r.turnOn false w) rest

/-- Reads an argument that names no flag: the value of a setting that waits for one. -/
def takePlain (r : Reader) (argument : String) : Except Halt Reader :=
  match r.pending with
  | some (s, none) => .ok { r with pending := some (s, some argument) }
  | _ => .error (.unknownArgument argument)

/-- Splits a long flag at its first equals sign. -/
def splitLong (text : List Char) : String × Option String :=
  let name := String.ofList (text.takeWhile (· != '='))
  match text.dropWhile (· != '=') with
  | [] => (name, none)
  | _ :: value => (name, some (String.ofList value))

/-- Reads one argument. -/
def take (r : Reader) (argument : String) : Except Halt Reader :=
  match argument.toList with
  | '-' :: '-' :: text =>
    let (name, attached?) := splitLong text
    r.takeLong name attached?
  | '-' :: letter :: rest => r.takeLetters (letter :: rest)
  | _ => r.takePlain argument

/-- Reads the arguments in order.  After a double dash no argument is known. -/
def takeAll (r : Reader) : List String → Except Halt Reader
  | [] => .ok r
  | argument :: rest =>
    if argument = "--" then
      match rest with
      | [] => .ok r
      | next :: _ => .error (.unknownArgument next)
    else do takeAll (← r.take argument) rest

end Reader

/-- Fills an open setting from a variable. -/
def Draft.fill (d : Draft) (env : Environment) (s : Setting) (name : String) :
    Except Halt Draft :=
  if d.has s then .ok d
  else match env.get? name with
    | some value => d.set s value
    | none => .ok d

/-- The settings of a draft, with the defaults for what is open. -/
def Draft.settings (d : Draft) : Settings where
  backend := d.backend
  startupDelay := d.startupDelay.getD .zero
  format := d.format.getD .text
  output := d.output
  summary := d.summary
  completion := d.completion

/-- The settings that the arguments and the environment ask for. -/
def parse (env : Environment) (arguments : List String) : Except Halt Settings := do
  let reader ← Reader.takeAll {} arguments
  let draft ← reader.settle
  let draft ← draft.fill env .backend backendVariable
  let draft ← draft.fill env .startupDelay startupDelayVariable
  return draft.settings

end Conformance.CommandLine
