import TemplateLint.Proofs.Analysis.Answers
import TemplateLint.Proofs.Number.Range
import TemplateLint.Proofs.Rule.Located
import TemplateLint.Proofs.Text.Reading

/-!
# Analyses of ordinary texts

Under heuristics whose weights are of their declared kinds and whose thresholds allow that nothing is
found, only a cap of too many digits can stand against an analysis.  So every text without an
overlong run of digits can be analyzed (`analyzable_of_ordinary`).
-/
namespace TemplateLint

/-- A text whose runs of digits are not too long, and whose length is no astronomic number. -/
structure Text.Ordinary (text : Text) : Prop where
  length_lt : text.length + 1 < sizeBound
  runs : ∀ digits, digits <:+: text → (∀ c ∈ digits, isDecimal c = true) →
    digits.length ≤ digitLimit

/-- Heuristics that may be used, with weights and penalties of their declared kinds, and with
thresholds that are not exceeded where nothing is found. -/
structure Heuristics.Ordinary (h : Heuristics) : Prop where
  accepted : h.accepted = true
  weights : ∀ w ∈ [h.scoreLineDivisor, h.scoreLineCap, h.scoreTagWeight, h.scoreConditionalWeight,
    h.scoreLoopWeight, h.renderBaseMs, h.renderLoopMs, h.renderConditionalMs, h.renderTagMs,
    h.renderCriticalPenaltyMs, h.renderWarningPenaltyMs], ∃ x, w = .real x
  penalties : ∀ w ∈ [h.scoreCriticalPenalty, h.scoreIssuePenalty, h.slowRenderPenalty,
    h.verySlowRenderPenalty], ∃ n, w = .int n
  thresholds : ∀ t ∈ [h.excessivePartials, h.dynamicValueCount, h.inlineStyleAttributes],
    t.AllowsNone
  told : Answers h.repeatedStringCount.written

/-- The default heuristics are ordinary. -/
theorem Heuristics.default_ordinary : Heuristics.default.Ordinary where
  accepted := by decide +kernel
  weights := by
    simp only [List.forall_mem_cons, List.not_mem_nil, false_implies, implies_true, and_true]
    exact ⟨⟨_, rfl⟩, ⟨_, rfl⟩, ⟨_, rfl⟩, ⟨_, rfl⟩, ⟨_, rfl⟩, ⟨_, rfl⟩, ⟨_, rfl⟩, ⟨_, rfl⟩, ⟨_, rfl⟩,
      ⟨_, rfl⟩, ⟨_, rfl⟩⟩
  penalties := by
    simp only [List.forall_mem_cons, List.not_mem_nil, false_implies, implies_true, and_true]
    exact ⟨⟨20, rfl⟩, ⟨10, rfl⟩, ⟨15, rfl⟩, ⟨30, rfl⟩⟩
  thresholds := by
    simp only [List.forall_mem_cons, List.not_mem_nil, false_implies, implies_true, and_true]
    exact ⟨rfl, rfl, rfl⟩
  told := Number.written_answers_iff.mpr (by decide +kernel)

variable {h : Heuristics}

/-! ## Arithmetic -/

/-- Counts that are no astronomic numbers. -/
structure Counts.Small (c : Counts) : Prop where
  lines : c.lines < sizeBound
  tags : c.tags < sizeBound
  conditionals : c.conditionals < sizeBound
  loops : c.loops < sizeBound

/-- What is counted in a text is no more than its places. -/
theorem Counts.ofText_small {dialect : Dialect} {text : Text} (ht : text.Ordinary) :
    (ofText dialect text).Small := by
  have hlines : text.lineCount < sizeBound :=
    Nat.lt_of_le_of_lt (Nat.succ_le_succ List.count_le_length) ht.length_lt
  have hcount : ∀ pattern : Pattern, pattern.countIn text < sizeBound := fun pattern =>
    Nat.lt_of_le_of_lt (pattern.countIn_le text) ht.length_lt
  have hzero : 0 < sizeBound := by decide +kernel
  rw [ofText]
  split
  · exact ⟨hlines, hzero, hzero, hzero⟩
  · next s _ => exact ⟨hlines, hcount s.tag, hcount s.conditional, hcount s.loop⟩

/-- The score of small counts. -/
theorem Counts.score_givesReal (hh : h.Ordinary) {c : Counts} (hc : c.Small) :
    Number.GivesReal (c.amounts.score h) := by
  obtain ⟨divisor, hdivisor⟩ := hh.weights h.scoreLineDivisor (by simp)
  obtain ⟨cap, hcap⟩ := hh.weights h.scoreLineCap (by simp)
  obtain ⟨tag, htag⟩ := hh.weights h.scoreTagWeight (by simp)
  obtain ⟨conditional, hconditional⟩ := hh.weights h.scoreConditionalWeight (by simp)
  obtain ⟨loop, hloop⟩ := hh.weights h.scoreLoopWeight (by simp)
  rw [Amounts.score, hdivisor, hcap, htag, hconditional, hloop]
  refine (Number.divide_givesReal hc.lines divisor).bind fun lines => ?_
  refine (Number.mul_givesReal hc.tags tag).bind fun tags => ?_
  -- whichever of the two is smaller, it is of the floating-point kind
  obtain ⟨capped, hcapped⟩ := Number.min_real lines cap
  rw [hcapped]
  refine (Number.add_givesReal capped tags).bind fun sum => ?_
  refine (Number.mul_givesReal hc.conditionals conditional).bind fun conditionals => ?_
  refine (Number.add_givesReal sum conditionals).bind fun sum => ?_
  refine (Number.mul_givesReal hc.loops loop).bind fun loops => ?_
  exact Number.add_givesReal sum loops

namespace Metrics

/-- Findings only add penalties to an estimate. -/
theorem foldlM_addPenalty_givesReal (hh : h.Ordinary) (findings : List Finding) (x : Binary64) :
    Number.GivesReal (findings.foldlM (addPenalty h) (.real x)) := by
  obtain ⟨critical, hcritical⟩ := hh.weights h.renderCriticalPenaltyMs (by simp)
  obtain ⟨warning, hwarning⟩ := hh.weights h.renderWarningPenaltyMs (by simp)
  induction findings generalizing x with
  | nil => exact ⟨x, rfl⟩
  | cons f rest ih =>
    rw [List.foldlM_cons]
    refine Number.GivesReal.bind ?_ ih
    rw [addPenalty, hcritical, hwarning]
    split
    · exact Number.add_givesReal x critical
    · exact Number.add_givesReal x warning
    · exact ⟨x, rfl⟩

/-- The render time of a template with small counts. -/
theorem renderTime_givesReal (hh : h.Ordinary) {m : Metrics} (hm : m.counts.Small)
    (findings : List Finding) : Number.GivesReal (m.renderTime findings h) := by
  obtain ⟨base, hbase⟩ := hh.weights h.renderBaseMs (by simp)
  obtain ⟨loop, hloop⟩ := hh.weights h.renderLoopMs (by simp)
  obtain ⟨conditional, hconditional⟩ := hh.weights h.renderConditionalMs (by simp)
  obtain ⟨tag, htag⟩ := hh.weights h.renderTagMs (by simp)
  rw [renderTime, hbase, hloop, hconditional, htag]
  refine (Number.mul_givesReal hm.loops loop).bind fun loops => ?_
  refine (Number.add_givesReal base loops).bind fun sum => ?_
  refine (Number.mul_givesReal hm.conditionals conditional).bind fun conditionals => ?_
  refine (Number.add_givesReal sum conditionals).bind fun sum => ?_
  refine (Number.mul_givesReal hm.tags tag).bind fun tags => ?_
  refine (Number.add_givesReal sum tags).bind fun structural => ?_
  refine (foldlM_addPenalty_givesReal hh findings structural).bind fun estimate => ?_
  exact ⟨estimate.roundPlaces 1, rfl⟩

/-- Metrics hold the counts of their text. -/
theorem counts_of_metrics {dialect : Dialect} {text : Text} {m : Metrics}
    (hm : ofText dialect text h = .ok m) : m.counts = Counts.ofText dialect text := by
  obtain ⟨score, -, hm⟩ := Answers.bind_eq_ok hm
  obtain ⟨factors, -, hm⟩ := Answers.bind_eq_ok hm
  exact congrArg Metrics.counts (Except.ok.inj hm).symm

end Metrics

/-! ## Caps -/

theorem LoopDetectors.caps_keep_digits :
    bladeCap.keeps 1 isDecimal ∧ antlersCap.keeps 1 isDecimal := by
  simp [bladeCap, antlersCap, Pattern.chain, Pattern.oneOf, Pattern.blanks, Pattern.keeps,
    Pattern.keeps_lit, Pattern.passes]

/-- The cap of an opener that stands in an ordinary text. -/
theorem LoopDetectors.capReadable_of_ordinary {dialect : Dialect} {text opener : Text}
    (ht : text.Ordinary) (hopener : opener <:+: text) : CapReadable dialect opener := by
  intro m hm
  obtain ⟨hblade, hantlers⟩ := caps_keep_digits
  obtain ⟨hoccurs, hdigits⟩ := Pattern.group_of_find? 1 isDecimal hm
  refine ht.runs _ (hoccurs.trans hopener) (hdigits ?_)
  split
  · exact hblade
  · exact hantlers

/-- The caps of an ordinary text. -/
theorem EdgeCases.capsReadable_of_ordinary {text : Text} (ht : text.Ordinary) (threshold : Value) :
    CapsReadable threshold (itemCap.findAll text) := by
  intro before m after hcaps _
  obtain ⟨hblade, hantlers⟩ := LoopDetectors.caps_keep_digits
  have hmem : m ∈ itemCap.findAll text := by
    rw [hcaps]
    exact List.mem_append_right before List.mem_cons_self
  obtain ⟨hoccurs, hdigits⟩ := Pattern.group_of_mem_findAll 1 isDecimal hmem
  exact ht.runs _ hoccurs (hdigits ⟨hantlers, hblade⟩)

/-! ## Analyses -/

namespace TemplateAnalysis

variable {o : AnalysisOptions} {s : TemplateSource}

/-- The render time of an ordinary text. -/
theorem renderTime_of_ordinary (hh : h.Ordinary) (hs : s.text.Ordinary) {m : Metrics}
    (hm : Metrics.ofText s.dialect s.text h = .ok m) (issues : List Finding) :
    Number.GivesReal (m.renderTime issues h) := by
  refine Metrics.renderTime_givesReal hh ?_ issues
  rw [Metrics.counts_of_metrics hm]
  exact Counts.ofText_small hs

/-- **Under ordinary heuristics an ordinary text can be analyzed**, if the threshold of complexity can
be told. -/
theorem analyzable_of_ordinary (hh : h.Ordinary) (ho : Answers o.complexityThreshold.written)
    (hs : s.text.Ordinary) : Analyzable h o s where
  score := by
    obtain ⟨score, hscore⟩ := Counts.score_givesReal hh (Counts.ofText_small hs)
    exact ⟨.real score, hscore, fun _ => ⟨Number.written_answers_iff.mpr rfl, ho⟩⟩
  loopCaps _ b hb := by
    have hreads := (StructureRules.loop_placedIn hb).standsAt.reads
    exact LoopDetectors.capReadable_of_ordinary hs
      (hreads.isInfix.trans (List.drop_suffix _ s.text).isInfix)
  memoryCaps := EdgeCases.capsReadable_of_ordinary hs h.memoryLimitThreshold
  inclusions _ _ _ := hh.thresholds h.excessivePartials (by simp)
  dynamicValues _ := hh.thresholds h.dynamicValueCount (by simp)
  styleAttributes _ := hh.thresholds h.inlineStyleAttributes (by simp)
  repeatedStrings _ := hh.told
  renderTime m issues hm _ := by
    obtain ⟨time, htime⟩ := renderTime_of_ordinary hh hs hm issues
    exact ⟨.real time, htime, Number.written_answers_iff.mpr rfl⟩

/-- The render time of an analysis of an ordinary text can be added up with others. -/
theorem renderTime_toReal_of_ordinary (hh : h.Ordinary) (hs : s.text.Ordinary)
    {a : TemplateAnalysis} (ha : ofSource h o s = .ok a) : Answers a.renderTime.toReal := by
  obtain ⟨hm, -, -, -, -, -, htime, -⟩ := ofSource_eq_ok ha
  obtain ⟨x, hx⟩ := renderTime_of_ordinary hh hs hm a.issues
  rw [Except.ok.inj (htime.symm.trans hx)]
  exact Answers.ok x

end TemplateAnalysis

end TemplateLint
