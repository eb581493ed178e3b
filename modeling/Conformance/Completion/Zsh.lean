/-
# Completion for zsh

A function that describes every option, first those that take a value, with what it is for and what
its value can be.
-/
import Conformance.Completion

namespace Conformance.Completion.Zsh

/-- The escapes that descriptions and values share. -/
def escapeShared (c : Char) : Option String :=
  if c = '\\' then some "\\\\"
  else if c = '\'' then some "'\\''"
  else if c = '[' then some "\\["
  else if c = ']' then some "\\]"
  else if c = ':' then some "\\:"
  else if c = '$' then some "\\$"
  else if c = '\x60' then some "\\`"
  else none

/-- What something is for, on one line. -/
def explanation (help : Option String) : String :=
  escapeWith (fun c => if c = '\n' then some " " else escapeShared c) (help.getD "")

/-- A value as a word. -/
def word (value : String) : String :=
  escapeWith
    (fun c => if c = '(' then some "\\(" else if c = ')' then some "\\)"
      else if c = ' ' then some "\\ " else escapeShared c) value

/-- What is offered for a value. -/
def offer (value : OptionValue) : String :=
  if value.choices.any fun choice => choice.help.isSome then
    "((" ++ "\n".intercalate (value.choices.map fun choice =>
      word choice.name ++ "\\:\"" ++ explanation choice.help ++ "\"") ++ "))"
  else if value.choices ≠ [] then "(" ++ " ".intercalate (value.choices.map Choice.name) ++ ")"
  else if value.isPath then "_files"
  else "_default"

/-- What is said about a value. -/
def valueText (value : OptionValue) : String :=
  ":" ++ value.placeholder.getD " " ++ ":" ++ offer value

/-- The lines of an option that takes a value. -/
def settingLines (o : CommandOption) (value : OptionValue) : List String :=
  let rest := "[" ++ explanation o.help ++ "]" ++ valueText value ++ "' \\"
  o.dashedLetter.toList.map (fun letter => "'" ++ letter ++ "+" ++ rest)
    ++ ["'" ++ o.dashedName ++ "=" ++ rest]

/-- The lines of an option that takes no value. -/
def switchLines (o : CommandOption) : List String :=
  (o.dashedLetter.toList ++ [o.dashedName]).map fun typed =>
    "'" ++ typed ++ "[" ++ explanation o.help ++ "]' \\"

/-- The lines of all options. -/
def optionLines (c : Command) : List String :=
  ["_arguments \"$\x7b_arguments_options[@]\x7d\" : \\"]
    ++ c.settings.flatMap (fun (o, value) => settingLines o value)
    ++ c.switches.flatMap switchLines
    ++ ["&& ret=0"]

/-- The script. -/
def script (c : Command) : String :=
  "#compdef " ++ c.name ++ "\n\n"
    ++ "autoload -U is-at-least\n\n"
    ++ "_" ++ c.name ++ "() \x7b\n"
    ++ "    typeset -A opt_args\n"
    ++ "    typeset -a _arguments_options\n"
    ++ "    local ret=1\n\n"
    ++ "    if is-at-least 5.2; then\n"
    ++ "        _arguments_options=(-s -S -C)\n"
    ++ "    else\n"
    ++ "        _arguments_options=(-s -C)\n"
    ++ "    fi\n\n"
    ++ "    local context curcontext=\"$curcontext\" state line\n"
    ++ "    " ++ "\n".intercalate (optionLines c) ++ "\n"
    ++ "\x7d\n\n"
    ++ "(( $+functions[_" ++ c.name ++ "_commands] )) ||\n"
    ++ "_" ++ c.name ++ "_commands() \x7b\n"
    ++ "    local commands; commands=()\n"
    ++ "    _describe -t commands '" ++ c.name ++ " commands' commands \"$@\"\n"
    ++ "\x7d\n\n"
    ++ "if [ \"$funcstack[1]\" = \"_" ++ c.name ++ "\" ]; then\n"
    ++ "    _" ++ c.name ++ " \"$@\"\n"
    ++ "else\n"
    ++ "    compdef _" ++ c.name ++ " " ++ c.name ++ "\n"
    ++ "fi\n"

end Conformance.Completion.Zsh
