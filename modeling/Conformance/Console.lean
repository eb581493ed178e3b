/-
# The console

Messages for the person at the console begin with a tag.  Tags are coloured only when the
environment forces it, since the messages do not go to a terminal that shows colours.
-/
import Conformance.Analysis
import Conformance.Environment

namespace Conformance

namespace Console

/-- What kind of message it is. -/
inductive Tag where
  | success
  | warning
  | error
  deriving DecidableEq

/-- The tag without colour. -/
def Tag.text : Tag → String
  | success => "[OK]"
  | warning => "[WARN]"
  | error => "[ERROR]"

/-- The code that switches to the colour of a tag. -/
def Tag.colour : Tag → String
  | success => "\x1b[32m"
  | warning => "\x1b[33m"
  | error => "\x1b[31m"

/-- Whether colours are switched off: the variable only has to be set. -/
def colourDisabled (env : Environment) : Bool := (env.get? "NO_COLOR").isSome

/-- Whether colours are forced on: the variable has to be set to anything but zero. -/
def colourForced (env : Environment) : Bool :=
  match env.get? "CLICOLOR_FORCE" with
  | some value => value != "0"
  | none => false

/-- The tag as the environment wants it. -/
def Tag.render (env : Environment) (tag : Tag) : String :=
  if !colourDisabled env && colourForced env then tag.colour ++ "\x1b[1m" ++ tag.text ++ "\x1b[0m"
  else tag.text

/-- A message, without its newline. -/
def message (env : Environment) (tag : Tag) (text : String) : String :=
  tag.render env ++ " " ++ text

/-- The messages that show a summary, one for each line. -/
def summary (env : Environment) : Summary → List String
  | .clean compared =>
    [message env .success (compared.repr ++ " comparison(s), no differences")]
  | .mismatched headline details =>
    message env .warning headline :: details.map ("  " ++ ·)

end Console

end Conformance
