/-
# Completion for PowerShell

A completer that offers every option, first those that take a value, with what it is for.
-/
import Conformance.Completion

namespace Conformance.Completion.PowerShell

/-- A text between apostrophes, straight or curly, which are doubled or set off. -/
def escaped (text : String) : String :=
  escapeWith
    (fun c => if c = '\'' then some "''" else if c = '’' then some "'’"
      else if c = '\n' then some " " else none) text

/-- One form of an option, with what it is for or else its bare name. -/
def candidate (typed listed name : String) (help : Option String) : String :=
  "\n            [CompletionResult]::new('" ++ typed ++ "', '" ++ listed
    ++ "', [CompletionResultType]::ParameterName, '" ++ (help.map escaped).getD name ++ "')"

/-- The forms of an option.  A capital letter is listed with a space, since the list does not tell
it from the small one otherwise. -/
def candidates (o : CommandOption) : String :=
  let letter := match o.short with
    | some c =>
      let typed := "-" ++ c.toString
      candidate typed (if c.isUpper then typed ++ " " else typed) c.toString o.help
    | none => ""
  letter ++ candidate o.dashedName o.dashedName o.long o.help

/-- The script. -/
def script (c : Command) : String :=
  "\nusing namespace System.Management.Automation\n"
    ++ "using namespace System.Management.Automation.Language\n\n"
    ++ "Register-ArgumentCompleter -Native -CommandName '" ++ c.name ++ "' -ScriptBlock \x7b\n"
    ++ "    param($wordToComplete, $commandAst, $cursorPosition)\n\n"
    ++ "    $commandElements = $commandAst.CommandElements\n"
    ++ "    $command = @(\n"
    ++ "        '" ++ c.name ++ "'\n"
    ++ "        for ($i = 1; $i -lt $commandElements.Count; $i++) \x7b\n"
    ++ "            $element = $commandElements[$i]\n"
    ++ "            if ($element -isnot [StringConstantExpressionAst] -or\n"
    ++ "                $element.StringConstantType -ne [StringConstantType]::BareWord -or\n"
    ++ "                $element.Value.StartsWith('-') -or\n"
    ++ "                $element.Value -eq $wordToComplete) \x7b\n"
    ++ "                break\n"
    ++ "        \x7d\n"
    ++ "        $element.Value\n"
    ++ "    \x7d) -join ';'\n\n"
    ++ "    $completions = @(switch ($command) \x7b\n"
    ++ "        '" ++ c.name ++ "' \x7b" ++ String.join (c.settingsFirst.map candidates) ++ "\n"
    ++ "            break\n"
    ++ "        \x7d\n"
    ++ "    \x7d)\n\n"
    ++ "    $completions.Where\x7b $_.CompletionText -like \"$wordToComplete*\" \x7d |\n"
    ++ "        Sort-Object -Property ListItemText\n"
    ++ "\x7d\n"

end Conformance.Completion.PowerShell
