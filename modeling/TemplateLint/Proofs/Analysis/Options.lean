import TemplateLint.Proofs.Analysis.Told
import TemplateLint.Proofs.Number.Order

/-!
# What the options of an analysis change

Each group of detectors tells by rules of its own, and no detector sees what another has found.  So
options that leave a group out take exactly the findings of its rules out of the issues
(`AnalysisOptions.keeps`), and nothing else depends on them.  A higher threshold of complexity takes
out at most the issue about complexity (`LosesAtMostComplexity`).  Both are said of any two analyses
of one template by `TemplateAnalysis.ofSource_options`.
-/
namespace TemplateLint

namespace AnalysisOptions

/-- The options keep a finding unless its rule belongs to a group that they leave out. -/
def keeps (o : AnalysisOptions) (f : Finding) : Bool :=
  (o.checkRelationships || f.rule ∉ LoopDetectors.loadRules) &&
    (o.analyzeLoops || f.rule ∉ LoopDetectors.sizeRules)

/-- The second options only have a threshold that is at least as high. -/
structure RaisedTo (o p : AnalysisOptions) : Prop where
  others : p = { o with complexityThreshold := p.complexityThreshold }
  threshold : ∃ lower higher, o.complexityThreshold.toNumber? = some lower ∧
    p.complexityThreshold.toNumber? = some higher ∧ lower.le higher = true

variable {o : AnalysisOptions} {found : List Finding}

/-- Findings of a group stay if the group is asked for. -/
theorem filter_keeps_load (h : ∀ f ∈ found, f.rule ∈ LoopDetectors.loadRules) :
    found.filter o.keeps = if o.checkRelationships then found else [] := by
  have hdisjoint : ∀ rule ∈ LoopDetectors.loadRules, rule ∉ LoopDetectors.sizeRules := by decide
  split
  · next hasked =>
    refine List.filter_eq_self.mpr fun f hf => ?_
    simp [keeps, hasked, hdisjoint f.rule (h f hf)]
  · next hasked =>
    refine List.filter_eq_nil_iff.mpr fun f hf => ?_
    simp [keeps, hasked, h f hf]

theorem filter_keeps_size (h : ∀ f ∈ found, f.rule ∈ LoopDetectors.sizeRules) :
    found.filter o.keeps = if o.analyzeLoops then found else [] := by
  have hdisjoint : ∀ rule ∈ LoopDetectors.sizeRules, rule ∉ LoopDetectors.loadRules := by decide
  split
  · next hasked =>
    refine List.filter_eq_self.mpr fun f hf => ?_
    simp [keeps, hasked, hdisjoint f.rule (h f hf)]
  · next hasked =>
    refine List.filter_eq_nil_iff.mpr fun f hf => ?_
    simp [keeps, hasked, h f hf]

/-- Findings of other rules stay, whatever is asked for. -/
theorem filter_keeps_others {rules : List Text} (h : ∀ f ∈ found, f.rule ∈ rules)
    (hrules : ∀ rule ∈ rules,
      rule ∉ LoopDetectors.loadRules ∧ rule ∉ LoopDetectors.sizeRules) :
    found.filter o.keeps = found := by
  refine List.filter_eq_self.mpr fun f hf => ?_
  obtain ⟨hload, hsize⟩ := hrules f.rule (h f hf)
  simp [keeps, hload, hsize]

end AnalysisOptions

/-- The same findings, or all but a first one about complexity, which may also only have another
message. -/
def LosesAtMostComplexity (found fewer : List Finding) : Prop :=
  fewer = found ∨ ∃ f rest, f.rule = String.toList "high_complexity" ∧ found = f :: rest ∧
    (fewer = rest ∨ ∃ message, fewer = { f with message := message } :: rest)

namespace TemplateAnalysis

variable {ctx : AnalysisContext} {m : Metrics}

/-- A run over a group that may be left out finds what the group finds, or nothing. -/
theorem runAll_ite_eq_ok {asked : Bool} {detectors : List Detector} {found all : List Finding}
    (h : runAll (if asked then detectors else []) ctx = .ok found)
    (hall : runAll detectors ctx = .ok all) : found = if asked then all else [] := by
  cases asked with
  | true => exact Except.ok.inj (h.symm.trans hall)
  | false => exact (Except.ok.inj h).symm

/-- The issues of fewer groups are the kept ones among the issues of all groups. -/
theorem issuesOf_eq_filter {o p : AnalysisOptions} {issues all : List Finding}
    (h : issuesOf o ctx m = .ok issues) (hall : issuesOf p ctx m = .ok all)
    (hthreshold : o.complexityThreshold = p.complexityThreshold)
    (hload : p.checkRelationships = true) (hsize : p.analyzeLoops = true) :
    issues = all.filter o.keeps := by
  obtain ⟨complex, load, size, whole, hcomplex, hload', hsize', hwhole, rfl⟩ := issuesOf_eq_ok h
  obtain ⟨complex', loadAll, sizeAll, whole', hcomplex', hloadAll, hsizeAll, hwhole', rfl⟩ :=
    issuesOf_eq_ok hall
  rw [hload, if_pos rfl] at hloadAll
  rw [hsize, if_pos rfl] at hsizeAll
  -- what does not belong to a group is found by both
  rw [hthreshold, hcomplex'] at hcomplex
  obtain rfl := Except.ok.inj hcomplex
  obtain rfl := Except.ok.inj (hwhole.symm.trans hwhole')
  have hc := AnalysisOptions.filter_keeps_others (o := o)
    (fun f hf => (complexity_finds complex' hcomplex' f hf).rule_mem) (by decide)
  have hl := AnalysisOptions.filter_keeps_load (o := o)
    fun f hf => (LoopDetectors.loadDetectors_finds loadAll hloadAll f hf).rule_mem
  have hs := AnalysisOptions.filter_keeps_size (o := o)
    fun f hf => (LoopDetectors.sizeDetectors_finds sizeAll hsizeAll f hf).rule_mem
  have hw := AnalysisOptions.filter_keeps_others (o := o)
    (fun f hf => (Issues.detectors_finds whole hwhole f hf).rule_mem) (by decide)
  rw [List.filter_append, List.filter_append, List.filter_append, hc, hl, hs, hw,
    ← runAll_ite_eq_ok hload' hloadAll, ← runAll_ite_eq_ok hsize' hsizeAll]

/-- The issue about complexity is told if the score exceeds the threshold; only its message depends
on the threshold. -/
theorem complexity_eq_ok {threshold : Value} {found : List Finding} {limit : Number}
    (hlimit : threshold.toNumber? = some limit) (h : complexity ctx m threshold = .ok found) :
    ∃ message, found = if limit.lt m.score then
      [ctx.finding "high_complexity" .performance .warning 0 message none
        (some "Break the template into smaller partials or components")
        [("score", .number m.score), ("factors", .names m.factors)]] else [] := by
  have hbelow : threshold.isBelow m.score = .ok (limit.lt m.score) := by
    rw [Value.isBelow, hlimit]
  obtain ⟨high, hhigh, h⟩ := Answers.bind_eq_ok h
  obtain rfl := Except.ok.inj (hbelow.symm.trans hhigh)
  split at h
  · next hlt =>
    obtain ⟨score, -, h⟩ := Answers.bind_eq_ok h
    obtain ⟨told, -, h⟩ := Answers.bind_eq_ok h
    exact ⟨_, by rw [if_pos hlt]; exact (Except.ok.inj h).symm⟩
  · next hlt => exact ⟨[], by rw [if_neg hlt]; exact (Except.ok.inj h).symm⟩

/-- A higher threshold takes out at most the issue about complexity. -/
theorem issuesOf_raised {o p : AnalysisOptions} (hraised : o.RaisedTo p)
    {found fewer : List Finding} (h : issuesOf o ctx m = .ok found)
    (hfewer : issuesOf p ctx m = .ok fewer) : LosesAtMostComplexity found fewer := by
  obtain ⟨lower, higher, hlower, hhigher, hle⟩ := hraised.threshold
  obtain ⟨complex, load, size, whole, hcomplex, hload, hsize, hwhole, rfl⟩ := issuesOf_eq_ok h
  obtain ⟨complex', load', size', whole', hcomplex', hload', hsize', hwhole', rfl⟩ :=
    issuesOf_eq_ok hfewer
  rw [hraised.others] at hload' hsize'
  obtain rfl := Except.ok.inj (hload.symm.trans hload')
  obtain rfl := Except.ok.inj (hsize.symm.trans hsize')
  obtain rfl := Except.ok.inj (hwhole.symm.trans hwhole')
  obtain ⟨message, rfl⟩ := complexity_eq_ok hlower hcomplex
  obtain ⟨message', rfl⟩ := complexity_eq_ok hhigher hcomplex'
  cases hlt : lower.lt m.score with
  | false =>
    -- a score above the higher threshold would be above the lower one
    have hlt' : higher.lt m.score ≠ true := by
      intro hlt'
      rw [Number.lt_of_le_of_lt hle hlt'] at hlt
      cases hlt
    rw [if_neg hlt', if_neg Bool.false_ne_true]
    exact Or.inl rfl
  | true =>
    refine Or.inr ⟨_, load ++ size ++ whole, rfl, rfl, ?_⟩
    split
    · exact Or.inr ⟨message', rfl⟩
    · exact Or.inl rfl

/-- **Options are filters.**  Two analyses of one template have the same metrics, optimizations and
risks.  With the same threshold, leaving groups out takes exactly their findings out of the issues;
a higher threshold takes out at most the issue about complexity. -/
theorem ofSource_options {h : Heuristics} {s : TemplateSource} {o p : AnalysisOptions}
    {a b : TemplateAnalysis} (ha : ofSource h o s = .ok a) (hb : ofSource h p s = .ok b) :
    (a.metrics = b.metrics ∧ a.optimizations = b.optimizations ∧ a.edgeCases = b.edgeCases) ∧
    (o.complexityThreshold = p.complexityThreshold → p.checkRelationships = true →
      p.analyzeLoops = true → a.issues = b.issues.filter o.keeps) ∧
    (o.RaisedTo p → LosesAtMostComplexity a.issues b.issues ∧ a.caching = b.caching ∧
      a.partials = b.partials) := by
  obtain ⟨hmetrics, hissues, hoptimizations, hedge, hcaching, hpartials, -⟩ := ofSource_eq_ok ha
  obtain ⟨hmetrics', hissues', hoptimizations', hedge', hcaching', hpartials', -⟩ :=
    ofSource_eq_ok hb
  have hm : a.metrics = b.metrics := Except.ok.inj (hmetrics.symm.trans hmetrics')
  rw [← hm] at hissues'
  refine ⟨⟨hm, ?_, ?_⟩, ?_, ?_⟩
  · exact Except.ok.inj (hoptimizations.symm.trans hoptimizations')
  · exact Except.ok.inj (hedge.symm.trans hedge')
  · exact issuesOf_eq_filter hissues hissues'
  · intro hraised
    refine ⟨issuesOf_raised hraised hissues hissues', ?_, ?_⟩
    · rw [hcaching, hcaching', hraised.others]
    · rw [hpartials, hpartials', hraised.others]

/-- A loop with a cap, a relationship and a query: without the size of loops, and with a threshold
that is not exceeded. -/
theorem ofSource_options_capped :
    let text : Text :=
      "\x7b\x7b collection:blog limit=\"80\" \x7d\x7d\x7b\x7b author:name \x7d\x7d" ++
        "\x7b\x7b entries:count \x7d\x7d\x7b\x7b /collection:blog \x7d\x7d"
    let s : TemplateSource := ⟨"blog.antlers.html", .antlers, text, 0⟩
    let o : AnalysisOptions := { complexityThreshold := 1 }
    ∃ a b c : TemplateAnalysis, ofSource Heuristics.default o s = .ok a ∧
      ofSource Heuristics.default { o with analyzeLoops := false } s = .ok b ∧
      ofSource Heuristics.default { o with complexityThreshold := 100 } s = .ok c ∧
      a.issues.map Finding.rule = (["high_complexity", "n_plus_one", "query_in_loop",
        "unpaginated_loop"] : List Text) ∧
      b.issues = a.issues.filter ({ o with analyzeLoops := false } : AnalysisOptions).keeps ∧
      LosesAtMostComplexity a.issues c.issues := by
  intro text s o
  have hrun : (do
      let a ← ofSource Heuristics.default o s
      let b ← ofSource Heuristics.default { o with analyzeLoops := false } s
      let c ← ofSource Heuristics.default { o with complexityThreshold := 100 } s
      pure (a.issues.map Finding.rule, b.issues.length, c.issues.length)) =
      .ok ((["high_complexity", "n_plus_one", "query_in_loop",
        "unpaginated_loop"] : List Text), 3, 3) := by
    decide +kernel
  obtain ⟨a, ha, hrun⟩ := Answers.bind_eq_ok hrun
  obtain ⟨b, hb, hrun⟩ := Answers.bind_eq_ok hrun
  obtain ⟨c, hc, hrun⟩ := Answers.bind_eq_ok hrun
  have hrules := congrArg Prod.fst (Except.ok.inj hrun)
  have hraised : o.RaisedTo { o with complexityThreshold := 100 } :=
    ⟨rfl, _, _, rfl, rfl, by decide +kernel⟩
  exact ⟨a, b, c, ha, hb, hc, hrules, (ofSource_options hb ha).2.1 rfl rfl rfl,
    ((ofSource_options ha hc).2.2 hraised).1⟩

end TemplateAnalysis

end TemplateLint
