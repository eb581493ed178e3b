/-
# Help

The short help has one line for each flag, the long help a paragraph.  Both show the present
value of the variables that stand in for flags; where such a value has several lines, all but the
first are indented like the text around them.

The same descriptions make the program known to a shell.
-/
import Conformance.CommandLine.Flag
import Conformance.Completion
import Conformance.Report.Event
import Conformance.Settings
import Conformance.Text.Styled

namespace Conformance.CommandLine

open Text (Styled bare)

/-- The variable that stands in for the backend. -/
def backendVariable : String := "CROSSCHECK_BACKEND"

/-- The variable that stands in for the startup delay. -/
def startupDelayVariable : String := "CROSSCHECK_STARTUP_DELAY"

/-! ### Descriptions -/

/-- What a flag is for.  The help switch points to the other help text. -/
def purpose (long : Bool) : Flag → String
  | .setting .backend =>
    "Backend providing the compiled functions: native or linked. "
      ++ "Defaults to linked when built with the `linked` feature"
  | .setting .startupDelay => "Wait before the first line of output (e.g. \"2s\", \"500ms\")"
  | .setting .format => "Report format"
  | .setting .output => "Write the report to this file instead of stdout"
  | .setting .completion => "Generate shell completion"
  | .switch .summary => "After the report, list reference/compiled differences on stderr"
  | .switch .help =>
    if long then "Print help (see a summary with '-h')" else "Print help (see more with '--help')"
  | .switch .version => "Print version"

/-- What a format of the report is. -/
def formatHelp : Format → String
  | .text => "Tab-separated text lines"
  | .json => "One JSON object per line"

/-- The values of a flag that can take only a few. -/
def choices : Flag → List Choice
  | .setting .format => Format.all.map fun format => ⟨format.name, some (formatHelp format)⟩
  | .setting .completion => Shell.all.map fun shell => ⟨shell.name, none⟩
  | _ => []

/-- The choices that are said to mean something. -/
def explainedChoices (f : Flag) : List (String × String) :=
  (choices f).filterMap fun choice => choice.help.map fun help => (choice.name, help)

/-- The variable that stands in for a flag, if there is one. -/
def standIn? : Flag → Option String
  | .setting .backend => some backendVariable
  | .setting .startupDelay => some startupDelayVariable
  | _ => none

/-- The value of a flag that is not given, where it is shown. -/
def default? : Flag → Option String
  | .setting .startupDelay => some "0ms"
  | .setting .format => some "text"
  | _ => none

/-- A variable with its present value. -/
def showVariable (env : Environment) (name : String) : String :=
  "[env: " ++ name ++ "=" ++ (env.get? name).getD "" ++ "]"

/-- The notes on a flag: its variable, its default, and its choices unless the long help explains
them one by one. -/
def notes (env : Environment) (long : Bool) (f : Flag) : List String :=
  ((standIn? f).map (showVariable env)).toList
    ++ ((default? f).map fun value => "[default: " ++ value ++ "]").toList
    ++ (if choices f = [] ∨ (long ∧ explainedChoices f ≠ []) then []
        else ["[possible values: " ++ ", ".intercalate ((choices f).map Choice.name) ++ "]"])

/-! ### Layout -/

/-- A number of spaces. -/
def spaces (count : Nat) : String := String.ofList (List.replicate count ' ')

/-- A text in which every line but the first is indented. -/
def hanging (indent : Nat) (text : String) : String :=
  String.join (text.toList.map fun c => if c = '\n' then "\n" ++ spaces indent else c.toString)

/-- The forms of a flag, with what stands for its value. -/
def synopsis (f : Flag) : Styled :=
  let letter := match f.short? with
    | some c => [bare "  ", ⟨some .literal, "-" ++ c.toString⟩, bare ", "]
    | none => [bare (spaces 6)]
  let value := match f with
    | .setting s => " " ++ s.placeholder
    | .switch _ => ""
  letter ++ [⟨some .literal, "--" ++ f.long⟩, bare value]

/-- The column in which the short help describes the flags. -/
def shortColumn : Nat := 39

/-- The column in which the long help describes the flags. -/
def longColumn : Nat := 10

/-- How many characters the forms of a flag take up. -/
def synopsisWidth (f : Flag) : Nat := 6 + f.label.length

/-- The line of a flag in the short help. -/
def shortEntry (env : Environment) (f : Flag) : Styled :=
  synopsis f ++
    [bare (spaces (shortColumn - synopsisWidth f)
      ++ hanging shortColumn (" ".intercalate (purpose false f :: notes env false f)) ++ "\n")]

/-- The choices of a flag with their meanings, in the long help. -/
def explanations (f : Flag) : Styled :=
  if explainedChoices f = [] then []
  else bare ("\n\n" ++ spaces longColumn ++ "Possible values:") ::
    (explainedChoices f).flatMap fun (name, help) =>
      [bare ("\n" ++ spaces longColumn ++ "- "), ⟨some .literal, name⟩, bare (": " ++ help)]

/-- The paragraph of a flag in the long help. -/
def longEntry (env : Environment) (f : Flag) : Styled :=
  let remarks := match notes env true f with
    | [] => ""
    | notes => hanging longColumn ("\n\n" ++ "\n".intercalate notes)
  synopsis f
    ++ [bare ("\n" ++ spaces longColumn ++ purpose true f)]
    ++ explanations f
    ++ [bare (remarks ++ "\n")]

/-- What comes before the flags. -/
def helpHead : Styled :=
  [bare "Compare reference functions against their compiled counterparts\n\n",
   ⟨some .title, "Usage:"⟩, bare " ", ⟨some .literal, "crosscheck"⟩, bare " [OPTIONS]\n\n",
   ⟨some .title, "Options:"⟩, bare "\n"]

/-- The help text, short or long. -/
def help (env : Environment) (long : Bool) : Styled :=
  if long then helpHead ++ [bare "\n"].intercalate (Flag.all.map (longEntry env))
  else helpHead ++ Flag.all.flatMap (shortEntry env)

/-! ### For shells -/

/-- The value of a flag as a shell sees it. -/
def optionValue? : Flag → Option OptionValue
  | .setting s => some ⟨some s.valueName, choices (.setting s), s == .output⟩
  | .switch _ => none

/-- The program as a shell sees it. -/
def command : Command :=
  ⟨"crosscheck", Flag.all.map fun f => ⟨f.long, f.short?, some (purpose false f), optionValue? f⟩⟩

end Conformance.CommandLine
