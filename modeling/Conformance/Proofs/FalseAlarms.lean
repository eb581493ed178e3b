/-
# No false alarms

On the native backend a difference can only be the suite's own doing.  A probe is *matched* if its
compiled side is called with the arguments of its reference, or reports the value of its reference
as a literal.  Since the native functions are the reference functions, by
`Native.functions_eq_of_reference?`, the two values in the record of a matched probe are the same.

The main result, `Suite.no_false_alarm`, carries this through the analysis and through the text of
the report: both columns of a line show the same number.
-/
import Conformance.Proofs.Agreement
import Conformance.Proofs.Numerals
import Conformance.Proofs.Verdict

namespace Conformance

variable {τ : Type}

namespace Probe

/-- Both sides of a probe are asked for the same value.  Where there is no reference value, a
literal has nothing to be equal to. -/
def Matched (p : Probe) : Prop :=
  ∀ args, p.referenceArgs = some args →
    p.compiled = .call args ∨
      ∃ value, p.compiled = .literal value ∧
        ∀ normal, p.operation.invokeReference args = .ok (some normal) → value = normal

lemma matched_compare (op : Operation) (label : String) (args : List Int32) :
    (compare op label args).Matched := by
  rintro _ ⟨⟩
  exact .inl rfl

lemma matched_observe (op : Operation) (label : String) (args : List Int32) (layout : Layout) :
    (observe op label args layout).Matched := by
  rintro _ ⟨⟩

lemma matched_compareWith_literal {op : Operation} {label : String} {args : List Int32}
    {value : Int32} (h : op.invokeReference args = .ok (some value)) :
    (compareWith op label args (.literal value)).Matched := by
  rintro _ ⟨⟩
  refine .inr ⟨value, rfl, fun normal hnormal => ?_⟩
  exact Option.some.inj (Except.ok.inj (h.symm.trans hnormal))

/-- The arguments at which a reference value was taken. -/
lemma exists_args_of_referenceValue? {p : Probe} {normal : Int32}
    (h : p.referenceValue? = some normal) :
    ∃ args f, ∃ hlen : args.length = p.operation.arity,
      p.referenceArgs = some args ∧ p.operation.reference? = some f ∧
      f.apply args hlen = normal := by
  rw [referenceValue?] at h
  cases hargs : p.referenceArgs with
  | none => simp [hargs] at h
  | some args =>
    by_cases hlen : args.length = p.operation.arity
    · simp only [hargs, dif_pos hlen] at h
      obtain ⟨f, hf, hvalue⟩ := Option.map_eq_some_iff.mp h
      exact ⟨args, f, hlen, rfl, hf, hvalue⟩
    · simp [hargs, hlen] at h

/-- A matched probe reports its reference value: as a literal, or as the answer of the native
function. -/
lemma Matched.value_eq {p : Probe} (h : p.Matched) {normal value : Int32}
    (hnormal : p.referenceValue? = some normal)
    (hvalue : p.compiled = .literal value ∨
      ∃ args, ∃ hlen : args.length = p.operation.arity,
        p.compiled = .call args ∧ value = (Native.functions p.operation).apply args hlen) :
    value = normal := by
  obtain ⟨args, f, hlen, hargs, hf, rfl⟩ := exists_args_of_referenceValue? hnormal
  -- what the probe reports must be of the kind that makes it matched
  rcases h args hargs with hcall | ⟨literal, hliteral, heq⟩
  · obtain hc | ⟨args', hlen', hc, rfl⟩ := hvalue
    · cases hcall.symm.trans hc
    · obtain rfl : args = args' := CompiledSide.call.inj (hcall.symm.trans hc)
      rw [Native.functions_eq_of_reference? hf]
  · obtain hc | ⟨args', hlen', hc, rfl⟩ := hvalue
    · obtain rfl : literal = value := CompiledSide.literal.inj (hliteral.symm.trans hc)
      refine heq _ ?_
      rw [Operation.invokeReference_of_length hlen, hf, Option.map_some]
    · cases hliteral.symm.trans hc

end Probe

/-- In the records of matched probes both values are the same. -/
lemma Answered.compiled_eq_of_matched {placed : List (Option String × Probe)}
    {records : List Record} {s s' : Unit}
    (h : Answered (Backend.ofFunctions "native" Native.functions) placed s records s')
    (hmatched : ∀ p ∈ placed.map Prod.snd, p.Matched) {r : Record} (hr : r ∈ records)
    {normal : Int32} (hnormal : r.normal = some normal) : r.compiled = normal := by
  obtain ⟨under, p, value, hmem, -, rfl, hvalue⟩ := h.exists_probe_of_mem hr
  have hp : p.Matched := hmatched p (List.mem_map.mpr ⟨(under, p), hmem, rfl⟩)
  refine hp.value_eq hnormal ?_
  obtain hliteral | ⟨args, hlen, s₁, hcall, rfl⟩ := hvalue
  · exact .inl hliteral
  · refine .inr ⟨args, hlen, hcall, ?_⟩
    exact congrArg Prod.fst (Backend.call_ofFunctions "native" Native.functions _ ⟨args, hlen⟩ s₁)

lemma Record.line_of_comparison {r : Record} (hlayout : r.layout = .comparison) {normal : Int32}
    (hnormal : r.normal = some normal) :
    r.line = r.label ++ "\t normal: " ++ Text.decimal normal ++ "\tcompiled:"
      ++ Text.decimal r.compiled := by
  simp only [Record.line, hlayout, hnormal]

/-- **No false alarm on the native backend.**  If all probes of a suite are matched and a run on the
native backend succeeds, with whatever sink, the analysis finds nothing.  A record with a reference
value that is laid out as a comparison shows the same number in both columns, and there is no other
way to read the columns of its line: behind the tabs that are last, the two texts are equal. -/
theorem Suite.no_false_alarm (sink : Sink τ) (suite : Suite) (t : τ) (records : List Record)
    (hmatched : ∀ p ∈ suite.probes, p.Matched)
    (h : (suite.run (Backend.ofFunctions "native" Native.functions) sink () t).result
      = .ok records) :
    analyze records = .ok () ∧
    ∀ r ∈ records, r.layout = .comparison → ∀ normal, r.normal = some normal →
      r.line = r.label ++ "\t normal: " ++ Text.decimal normal ++ "\tcompiled:"
        ++ Text.decimal normal ∧
      ∀ label left right : String, '\t' ∉ left.toList → '\t' ∉ right.toList →
        r.line = label ++ "\t normal: " ++ left ++ "\tcompiled:" ++ right → left = right := by
  obtain ⟨s', hanswered⟩ := Suite.answered_of_run h
  rw [← suite.map_snd_placed] at hmatched
  have hsame : ∀ r ∈ records, ∀ normal, r.normal = some normal → r.compiled = normal :=
    fun r hr normal hnormal => hanswered.compiled_eq_of_matched hmatched hr hnormal
  constructor
  · rw [analyze_eq_ok_iff, List.countP_eq_zero]
    intro r hr hdiffers
    obtain ⟨normal, hnormal, hne⟩ := Record.differs_iff.mp hdiffers
    exact hne (hsame r hr normal hnormal).symm
  · intro r hr hlayout normal hnormal
    have hline := Record.line_of_comparison hlayout hnormal
    rw [hsame r hr normal hnormal] at hline
    refine ⟨hline, fun label left right hleft hright hread => ?_⟩
    obtain ⟨-, rfl, rfl⟩ := Text.columns_inj hleft (Text.tab_notMem_decimal normal) hright
      (Text.tab_notMem_decimal normal) (hread.symm.trans hline)
    rfl

/-- A suite of matched probes: beyond the table and the range of the Fibonacci function, below zero,
with a literal, and without a reference. -/
def Suite.matchedProbes : Suite :=
  ⟨[⟨some "fibonacci:", [.compare .fibonacci "beyond the table" [47]]⟩,
    ⟨none, [.compare .factorial "below zero" [-3],
      .compareWith .thresholdBranch "literal" [60, 61] (.literal 142),
      .compare .sum "no reference" [1, 2, 3], .observe .random "not asked" [3] .tagged]⟩]⟩

/-- The native backend is cleared on it. -/
theorem Suite.no_false_alarm_matchedProbes :
    ∃ records, (Suite.matchedProbes.run (Backend.ofFunctions "native" Native.functions) Sink.discard
        () ()).result = .ok records ∧
      (∀ p ∈ Suite.matchedProbes.probes, p.Matched) ∧ analyze records = .ok () := by
  have hmatched : ∀ p ∈ Suite.matchedProbes.probes, p.Matched := by
    intro p hp
    simp only [Suite.matchedProbes, Suite.probes, List.flatMap_cons, List.flatMap_nil,
      List.append_nil, List.cons_append, List.nil_append, List.mem_cons, List.not_mem_nil,
      or_false] at hp
    rcases hp with rfl | rfl | rfl | rfl | rfl
    · exact Probe.matched_compare _ _ _
    · exact Probe.matched_compare _ _ _
    · exact Probe.matched_compareWith_literal rfl
    · exact Probe.matched_compare _ _ _
    · exact Probe.matched_observe _ _ _ _
  have hrun : ∃ records, (Suite.matchedProbes.run (Backend.ofFunctions "native" Native.functions)
      Sink.discard () ()).result = .ok records := ⟨_, rfl⟩
  obtain ⟨records, hrecords⟩ := hrun
  exact ⟨records, hrecords, hmatched, (Suite.no_false_alarm _ _ _ _ hmatched hrecords).1⟩

end Conformance
