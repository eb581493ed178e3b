/-
# Suites

A suite is a list of groups, and a group is a list of probes under an optional heading.  Suites
are built up from the left: a group is opened, and probes are added to the group opened last.
-/
import Conformance.Probe

namespace Conformance

/-- Probes under an optional heading. -/
structure ProbeGroup where
  /-- The line printed before the group. -/
  heading : Option String
  /-- The probes, in order. -/
  probes : List Probe
  deriving DecidableEq

namespace ProbeGroup

/-- A group with a heading and no probes yet. -/
def titled (heading : String) : ProbeGroup := ⟨some heading, []⟩

/-- A group without heading and without probes yet. -/
def untitled : ProbeGroup := ⟨none, []⟩

/-- The group with one more probe at its end. -/
def push (g : ProbeGroup) (p : Probe) : ProbeGroup := { g with probes := g.probes ++ [p] }

end ProbeGroup

/-- Groups in order. -/
structure Suite where
  /-- The groups. -/
  groups : List ProbeGroup
  deriving DecidableEq

namespace Suite

/-- The suite without groups. -/
def empty : Suite := ⟨[]⟩

/-- All probes in order. -/
def probes (suite : Suite) : List Probe := suite.groups.flatMap (·.probes)

/-- The number of probes. -/
def size (suite : Suite) : Nat :=
  suite.groups.foldr (fun g n => g.probes.length + n) 0

/-- Whether there is no probe. -/
def isEmpty (suite : Suite) : Bool := suite.size == 0

/-- The suite with one more group at its end. -/
def pushGroup (suite : Suite) (g : ProbeGroup) : Suite := ⟨suite.groups ++ [g]⟩

/-- The groups with a probe added to the last one; if there is none, the probe gets a group
without heading. -/
def pushProbeTo (p : Probe) : List ProbeGroup → List ProbeGroup
  | [] => [ProbeGroup.untitled.push p]
  | [g] => [g.push p]
  | g :: rest => g :: pushProbeTo p rest

/-- The suite with a probe added to its last group. -/
def pushProbe (suite : Suite) (p : Probe) : Suite := ⟨pushProbeTo p suite.groups⟩

end Suite

end Conformance
