/-
# Settings

What a run of the program is asked to do.
-/
import Conformance.Completion
import Conformance.Delay
import Conformance.Report.Event

namespace Conformance

/-- What a run of the program is asked to do. -/
structure Settings where
  /-- The backend to run, `none` for the default one. -/
  backend : Option String
  /-- How long to wait before the first output. -/
  startupDelay : Delay
  /-- The format of the report. -/
  format : Format
  /-- The file the report goes to, `none` for standard output. -/
  output : Option String
  /-- Whether to sum up the differences after the report. -/
  summary : Bool
  /-- The shell to write a completion script for, in place of a run. -/
  completion : Option Shell
  deriving DecidableEq

namespace Format

/-- Both formats. -/
def all : List Format := [text, json]

/-- The name of a format on the command line. -/
def name : Format → String
  | text => "text"
  | json => "json"

/-- The format of a given name. -/
def ofName? (name : String) : Option Format := all.find? fun f => f.name == name

/-- A format as it stands in the settings' text. -/
def title : Format → String
  | text => "Text"
  | json => "Json"

end Format

/-- A shell as it stands in the settings' text. -/
def Shell.title : Shell → String
  | bash => "Bash"
  | elvish => "Elvish"
  | fish => "Fish"
  | powershell => "PowerShell"
  | zsh => "Zsh"

/-- The settings on one line. -/
def Settings.text (s : Settings) : String :=
  "AppConfig \x7b backend: " ++ Text.showOption Text.quote s.backend
    ++ ", startup_delay: " ++ s.startupDelay.text
    ++ ", format: " ++ s.format.title
    ++ ", output: " ++ Text.showOption Text.quote s.output
    ++ ", summary: " ++ (if s.summary then "true" else "false")
    ++ ", completion: " ++ Text.showOption Shell.title s.completion ++ " \x7d"

end Conformance
