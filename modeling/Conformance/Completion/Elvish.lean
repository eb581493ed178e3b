/-
# Completion for elvish

A completer that offers every option, first those that take a value, with what it is for.
-/
import Conformance.Completion

namespace Conformance.Completion.Elvish

/-- A text between apostrophes, which are doubled. -/
def escaped (text : String) : String :=
  escapeWith (fun c => if c = '\'' then some "''" else if c = '\n' then some " " else none) text

/-- One form of an option, with what it is for or else its bare name. -/
def candidate (typed name : String) (help : Option String) : String :=
  "\n            cand " ++ typed ++ " '" ++ (help.map escaped).getD name ++ "'"

/-- The forms of an option. -/
def candidates (o : CommandOption) : String :=
  let letter := match o.short with
    | some c => candidate ("-" ++ c.toString) c.toString o.help
    | none => ""
  letter ++ candidate o.dashedName o.long o.help

/-- The script. -/
def script (c : Command) : String :=
  "\nuse builtin;\nuse str;\n\n"
    ++ "set edit:completion:arg-completer[" ++ c.name ++ "] = \x7b|@words|\n"
    ++ "    fn spaces \x7b|n|\n"
    ++ "        builtin:repeat $n ' ' | str:join ''\n"
    ++ "    \x7d\n"
    ++ "    fn cand \x7b|text desc|\n"
    ++ "        edit:complex-candidate $text"
    ++ " &display=$text' '(spaces (- 14 (wcswidth $text)))$desc\n"
    ++ "    \x7d\n"
    ++ "    var command = '" ++ c.name ++ "'\n"
    ++ "    for word $words[1..-1] \x7b\n"
    ++ "        if (str:has-prefix $word '-') \x7b\n"
    ++ "            break\n"
    ++ "        \x7d\n"
    ++ "        set command = $command';'$word\n"
    ++ "    \x7d\n"
    ++ "    var completions = [\n"
    ++ "        &'" ++ c.name ++ "'= \x7b" ++ String.join (c.settingsFirst.map candidates) ++ "\n"
    ++ "        \x7d\n"
    ++ "    ]\n"
    ++ "    $completions[$command]\n"
    ++ "\x7d\n"

end Conformance.Completion.Elvish
