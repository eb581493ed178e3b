/-
# Completion for fish

One line for each option, first those that take a value.
-/
import Conformance.Completion

namespace Conformance.Completion.Fish

/-- A text between apostrophes. -/
def escaped (text : String) : String :=
  escapeWith (fun c => if c = '\\' then some "\\\\" else if c = '\'' then some "\\'" else none) text

/-- What something is for, on one line. -/
def explanation (help : String) : String :=
  escaped (escapeWith (fun c => if c = '\n' then some " " else none) help)

/-- A value that is offered, with its meaning. -/
def offeredChoice (choice : Choice) : String :=
  escapeWith (fun c => if c = ',' then some "\\," else none) (escaped choice.name)
    ++ "\\t'" ++ explanation (choice.help.getD "") ++ "'"

/-- What is offered for a value. -/
def offer (value : OptionValue) : String :=
  if value.choices ≠ [] then
    " -r -f -a \"" ++ "\n".intercalate (value.choices.map offeredChoice) ++ "\""
  else if value.isPath then " -r -F"
  else " -r"

/-- The line of an option. -/
def line (name : String) (o : CommandOption) : String :=
  let letter := match o.short with
    | some c => " -s " ++ c.toString
    | none => ""
  let help := match o.help with
    | some text => " -d '" ++ explanation text ++ "'"
    | none => ""
  let value := match o.value with
    | some value => offer value
    | none => ""
  "complete -c " ++ name ++ letter ++ " -l " ++ escaped o.long ++ help ++ value ++ "\n"

/-- The script. -/
def script (c : Command) : String := String.join (c.settingsFirst.map (line c.name))

end Conformance.Completion.Fish
