/-
# Flags

What can be named on the command line: settings, which take a value, and switches, which take
none.
-/

namespace Conformance.CommandLine

/-- What takes a value on the command line. -/
inductive Setting where
  | backend
  | startupDelay
  | format
  | output
  | completion
  deriving DecidableEq

/-- What takes no value on the command line. -/
inductive Switch where
  | summary
  | help
  | version
  deriving DecidableEq

/-- A setting or a switch. -/
inductive Flag where
  | setting (setting : Setting)
  | switch (switch : Switch)
  deriving DecidableEq

namespace Setting

/-- The long name, without dashes. -/
def long : Setting → String
  | backend => "backend"
  | startupDelay => "startup-delay"
  | format => "format"
  | output => "output"
  | completion => "completion"

/-- What stands for the value, without its brackets. -/
def valueName : Setting → String
  | backend => "BACKEND"
  | startupDelay => "STARTUP_DELAY"
  | format => "FORMAT"
  | output => "OUTPUT"
  | completion => "COMPLETION"

/-- What stands for the value in messages. -/
def placeholder (s : Setting) : String := "<" ++ s.valueName ++ ">"

/-- A setting as messages name it. -/
def label (s : Setting) : String := "--" ++ s.long ++ " " ++ s.placeholder

end Setting

/-- The long name of a switch, without dashes. -/
def Switch.long : Switch → String
  | summary => "summary"
  | help => "help"
  | version => "version"

/-- A switch as messages name it. -/
def Switch.label (w : Switch) : String := "--" ++ w.long

namespace Flag

/-- All flags, in the order of the help text. -/
def all : List Flag :=
  [.setting .backend, .setting .startupDelay, .setting .format, .setting .output,
   .switch .summary, .setting .completion, .switch .help, .switch .version]

/-- The long name, without dashes. -/
def long : Flag → String
  | setting s => s.long
  | switch w => w.long

/-- A flag as messages name it. -/
def label : Flag → String
  | setting s => s.label
  | switch w => w.label

/-- The letter of a flag, if it has one. -/
def short? : Flag → Option Char
  | setting .output => some 'o'
  | switch .help => some 'h'
  | switch .version => some 'V'
  | _ => none

/-- The flag of a long name. -/
def ofLong? (name : String) : Option Flag := all.find? fun f => f.long == name

/-- The flag of a letter. -/
def ofShort? (letter : Char) : Option Flag := all.find? fun f => f.short? == some letter

end Flag

end Conformance.CommandLine
