/-
# Completion for bash

A function that looks at the word before the one to be completed: after an option with a value it
offers the values, and otherwise all options.
-/
import Conformance.Completion

namespace Conformance.Completion.Bash

/-- The name of a command as a label in the script. -/
def caseLabel (name : String) : String :=
  escapeWith (fun c => if c = '-' then some "__" else none) name

/-- Whether a name is taken for the path to a command within a command. -/
def isPath (name : String) : Bool := occursIn "__subcmd__".toList name.toList

/-- What is offered for a value. -/
def offer (value : OptionValue) : String :=
  if value.choices = [] then "$(compgen -f \"$\x7bcur\x7d\")"
  else "$(compgen -W \"" ++ " ".intercalate (value.choices.map Choice.name)
    ++ "\" -- \"$\x7bcur\x7d\")"

/-- The branch for the value of an option, by the form in which the option was typed. -/
def valueBranch (typed : String) (value : OptionValue) : String :=
  "\n                " ++ typed ++ ")"
    ++ "\n                    COMPREPLY=(" ++ offer value ++ ")"
    ++ "\n                    return 0"
    ++ "\n                    ;;"

/-- The branches for the values of all options. -/
def valueBranches (c : Command) : String :=
  String.join <| c.settings.flatMap fun (o, value) =>
    (o.dashedName :: o.dashedLetter.toList).map fun typed => valueBranch typed value

/-- All options as they are typed, letters first. -/
def allOptions (c : Command) : String :=
  " ".intercalate (c.options.filterMap CommandOption.dashedLetter
    ++ c.options.map CommandOption.dashedName)

/-- The script. -/
def script (c : Command) : String :=
  let label := caseLabel c.name
  "_" ++ c.name ++ "() \x7b\n"
    ++ "    local i cur prev opts cmd\n"
    ++ "    COMPREPLY=()\n"
    ++ "    if [[ \"$\x7bBASH_VERSINFO[0]\x7d\" -ge 4 ]]; then\n"
    ++ "        cur=\"$2\"\n"
    ++ "    else\n"
    ++ "        cur=\"$\x7bCOMP_WORDS[COMP_CWORD]\x7d\"\n"
    ++ "    fi\n"
    ++ "    prev=\"$3\"\n"
    ++ "    cmd=\"\"\n"
    ++ "    opts=\"\"\n"
    ++ "\n"
    ++ "    for i in \"$\x7bCOMP_WORDS[@]:0:COMP_CWORD\x7d\"\n"
    ++ "    do\n"
    ++ "        case \"$\x7bcmd\x7d,$\x7bi\x7d\" in\n"
    ++ "            \",$1\")\n"
    ++ "                cmd=\"" ++ label ++ "\"\n"
    ++ "                ;;\n"
    ++ "            *)\n"
    ++ "                ;;\n"
    ++ "        esac\n"
    ++ "    done\n"
    ++ "\n"
    ++ "    case \"$\x7bcmd\x7d\" in\n"
    ++ "        " ++ label ++ ")\n"
    ++ "            opts=\"" ++ allOptions c ++ "\"\n"
    ++ "            if [[ $\x7bcur\x7d == -* || $\x7bCOMP_CWORD\x7d -eq 1 ]] ; then\n"
    ++ "                COMPREPLY=( $(compgen -W \"$\x7bopts\x7d\" -- \"$\x7bcur\x7d\") )\n"
    ++ "                return 0\n"
    ++ "            fi\n"
    ++ "            case \"$\x7bprev\x7d\" in" ++ valueBranches c ++ "\n"
    ++ "                *)\n"
    ++ "                    COMPREPLY=()\n"
    ++ "                    ;;\n"
    ++ "            esac\n"
    ++ "            COMPREPLY=( $(compgen -W \"$\x7bopts\x7d\" -- \"$\x7bcur\x7d\") )\n"
    ++ "            return 0\n"
    ++ "            ;;\n"
    ++ "    esac\n"
    ++ "\x7d\n"
    ++ "\n"
    ++ "if [[ \"$\x7bBASH_VERSINFO[0]\x7d\" -eq 4 && \"$\x7bBASH_VERSINFO[1]\x7d\" -ge 4"
    ++ " || \"$\x7bBASH_VERSINFO[0]\x7d\" -gt 4 ]]; then\n"
    ++ "    complete -F _" ++ c.name ++ " -o nosort -o bashdefault -o default " ++ c.name ++ "\n"
    ++ "else\n"
    ++ "    complete -F _" ++ c.name ++ " -o bashdefault -o default " ++ c.name ++ "\n"
    ++ "fi\n"

end Conformance.Completion.Bash
