/-
# Shell completion

A command as a shell sees it, and the shells it can be described to.  The script for each shell is
in a module of its own; `mentioned` looks for words in a script.
-/

namespace Conformance

/-- The shells there are scripts for. -/
inductive Shell where
  | bash
  | elvish
  | fish
  | powershell
  | zsh
  deriving DecidableEq

namespace Shell

/-- All shells, in order of their names. -/
def all : List Shell := [bash, elvish, fish, powershell, zsh]

/-- The name of a shell on the command line. -/
def name : Shell → String
  | bash => "bash"
  | elvish => "elvish"
  | fish => "fish"
  | powershell => "powershell"
  | zsh => "zsh"

/-- The shell of a given name. -/
def ofName? (name : String) : Option Shell := all.find? fun shell => shell.name == name

end Shell

/-- One of a few values that an option can take. -/
structure Choice where
  /-- The value. -/
  name : String
  /-- What it means, if that is said. -/
  help : Option String := none
  deriving DecidableEq

/-- The value of an option. -/
structure OptionValue where
  /-- What stands for the value, if that is said. -/
  placeholder : Option String := none
  /-- The values there are, if there are only a few. -/
  choices : List Choice := []
  /-- Whether the value is a path. -/
  isPath : Bool := false
  deriving DecidableEq

/-- An option of a command. -/
structure CommandOption where
  /-- Its name, without dashes. -/
  long : String
  /-- Its letter, if it has one. -/
  short : Option Char := none
  /-- What it is for, if that is said. -/
  help : Option String := none
  /-- Its value, if it takes one. -/
  value : Option OptionValue := none
  deriving DecidableEq

namespace CommandOption

/-- The name as it is typed. -/
def dashedName (o : CommandOption) : String := "--" ++ o.long

/-- The letter as it is typed. -/
def dashedLetter (o : CommandOption) : Option String :=
  o.short.map fun letter => "-" ++ letter.toString

/-- The switch that shows the help of a command. -/
def helpSwitch : CommandOption := ⟨"help", some 'h', some "Print help", none⟩

end CommandOption

/-- A command as a shell sees it. -/
structure Command where
  /-- The name. -/
  name : String
  /-- The options. -/
  options : List CommandOption
  deriving DecidableEq

namespace Command

/-- A command with long options that take any value, and with help. -/
def ofLongs (name : String) (longs : List String) : Command :=
  ⟨name, longs.map (fun long => { long, value := some {} }) ++ [.helpSwitch]⟩

/-- The options that take a value, each with its value. -/
def settings (c : Command) : List (CommandOption × OptionValue) :=
  c.options.filterMap fun o => o.value.map fun value => (o, value)

/-- The options that take no value. -/
def switches (c : Command) : List CommandOption := c.options.filter fun o => o.value.isNone

/-- The options that take a value, and then the others. -/
def settingsFirst (c : Command) : List CommandOption := c.settings.map (·.1) ++ c.switches

end Command

/-- A text in which some characters are written in another way. -/
def escapeWith (escape : Char → Option String) (text : String) : String :=
  String.join (text.toList.map fun c => (escape c).getD c.toString)

/-- Whether a word occurs in a text. -/
def occursIn (word text : List Char) : Bool :=
  word.isPrefixOf text || match text with
    | [] => false
    | _ :: rest => occursIn word rest

/-- The words that occur in a text, in order. -/
def mentioned (words : List String) (text : String) : List String :=
  words.filter fun word => occursIn word.toList text.toList

end Conformance
