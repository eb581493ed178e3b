/-
# The environment

The variables a program is started with.
-/

namespace Conformance

/-- Names and values of variables; of two entries with one name the first counts. -/
structure Environment where
  /-- The entries. -/
  vars : List (String × String)
  deriving DecidableEq

/-- The value of a variable, if it is set. -/
def Environment.get? (env : Environment) (name : String) : Option String := env.vars.lookup name

end Conformance
