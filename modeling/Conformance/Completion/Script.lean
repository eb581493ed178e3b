/-
# Completion scripts

The script that teaches a shell the options of a command.  For bash a name with a certain mark in it
is the path to a command within a command.  There are no such commands here, so there is no script
for a command whose own name has the mark.
-/
import Conformance.Completion.Bash
import Conformance.Completion.Elvish
import Conformance.Completion.Fish
import Conformance.Completion.PowerShell
import Conformance.Completion.Zsh

namespace Conformance

/-- The script for a shell. -/
def Command.completion (c : Command) : Shell → String
  | .bash => Completion.Bash.script c
  | .elvish => Completion.Elvish.script c
  | .fish => Completion.Fish.script c
  | .powershell => Completion.PowerShell.script c
  | .zsh => Completion.Zsh.script c

/-- A command within a command was looked for, and there is none. -/
structure Completion.MissingCommand where
  deriving DecidableEq

/-- The text shown for a missing command. -/
def Completion.MissingCommand.message (_ : MissingCommand) : String :=
  "called `Option::unwrap()` on a `None` value"

/-- The script for a shell, if the name of the command is not taken for a path. -/
def Command.checkedCompletion (c : Command) (shell : Shell) :
    Except Completion.MissingCommand String :=
  if shell = .bash ∧ Completion.Bash.isPath c.name then .error ⟨⟩
  else .ok (c.completion shell)

end Conformance
