import TemplateLint.Proofs.Analysis.Ordinary
import TemplateLint.Proofs.Operation.Answers

/-!
# Operations on ordinary texts

Under ordinary settings every operation has an outcome for ordinary texts.  The default settings are
ordinary, so by default only an overlong run of digits in a template can make an operation stop
without one.
-/
namespace TemplateLint

variable {h : Heuristics}

/-! ## The performance score -/

/-- Integer penalties leave an integer. -/
theorem performanceScore_of_ordinary (hh : h.Ordinary) (critical total : Int) (time : Number) :
    Answers (performanceScore h (.int critical) (.int total) time) := by
  obtain ⟨g, hg⟩ := Heuristics.exists_gradesBy hh.accepted hh.penalties
  rw [Grading.performanceScore_eq hg]
  exact Answers.ok _

/-! ## Operations -/

theorem AnalysisResult.reportable_of_ordinary (hh : h.Ordinary) {o : AnalysisOptions}
    (ho : Answers o.complexityThreshold.written) {c : Collection}
    (hc : ∀ s ∈ c.sources, s.text.Ordinary) : Reportable h o c where
  analyzable s hs := TemplateAnalysis.analyzable_of_ordinary hh ho (hc s hs)
  renderTimes s hs _ ha := (TemplateAnalysis.renderTime_toReal_answers_iff ha).mp
    (TemplateAnalysis.renderTime_toReal_of_ordinary hh (hc s hs) ha)
  score _ _ := (performanceScore_answers_iff hh.accepted).mp (performanceScore_of_ordinary hh _ _ _)

/-- Settings under which an operation has an outcome unless a text stands against it. -/
structure Settings.Ordinary (s : Settings) : Prop where
  heuristics : s.heuristics.Ordinary
  maxSize : Answers s.collect.maxSize

/-- The default settings are ordinary. -/
theorem Settings.default_ordinary : Settings.default.Ordinary :=
  ⟨Heuristics.default_ordinary, 5242880, by decide +kernel⟩

/-- Every template that is gathered has an ordinary text. -/
def GathersOrdinary (w : World) (s : Settings) (type : Option Text) (given : Text) : Prop :=
  ∀ c, Collection.gather w s.collect type given = .ok c → ∀ source ∈ c.sources, source.text.Ordinary

/-- The default threshold of complexity can be told. -/
private theorem default_threshold_written :
    Answers ({} : AnalysisOptions).complexityThreshold.written :=
  Number.written_answers_iff.mpr rfl

/-- **Under ordinary heuristics an ordinary text is linted.** -/
theorem lint_answers_of_ordinary {o : LintOptions} (ho : o.Accepted) (hh : o.heuristics.Ordinary)
    {text : Text} (ht : text.Ordinary) : Answers (lint o text) := by
  refine (lint_answers_iff ho).mpr fun dialect _ _ => ?_
  exact TemplateAnalysis.analyzable_of_ordinary hh default_threshold_written ht

variable {w : World} {given : Text}

/-- **Under ordinary settings ordinary texts are analyzed**, if the threshold of complexity can be
told. -/
theorem analyze_answers_of_ordinary {o : AnalyzeOptions} (ho : o.Accepted)
    (hs : o.settings.Ordinary) (hthreshold : Answers o.analysis.complexityThreshold.written)
    (hgiven : GathersOrdinary w o.settings o.type given) : Answers (analyze w o given) := by
  refine (analyze_answers_iff ho).mpr fun _ _ => ⟨fun _ => hthreshold, fun _ => ?_, fun _ c hc => ?_⟩
  · exact fun _ _ _ _ => hs.maxSize
  · exact AnalysisResult.reportable_of_ordinary hs.heuristics hthreshold (hgiven c hc)

/-- **Under ordinary settings optimizations of ordinary texts are planned**, if the limit can be
told. -/
theorem suggest_answers_of_ordinary {o : SuggestOptions} (ho : o.Accepted)
    (hs : o.settings.Ordinary) (hlimit : Answers o.limit.written)
    (hgiven : GathersOrdinary w o.settings o.type given) : Answers (suggest w o given) := by
  refine (suggest_answers_iff ho).mpr fun _ _ _ _ =>
    ⟨fun _ => hlimit, fun _ => ?_, fun _ c hc source hsource => ?_⟩
  · exact fun _ _ _ _ => hs.maxSize
  · exact TemplateAnalysis.analyzable_of_ordinary hs.heuristics default_threshold_written
      (hgiven c hc source hsource)

/-- With the default options every ordinary text is linted. -/
theorem lint_answers_of_default {text : Text} (ht : text.Ordinary) : Answers (lint {} text) := by
  obtain ⟨hpolicy, hheuristics⟩ := defaults_accepted
  have ho : ({} : LintOptions).Accepted := ⟨hpolicy, hheuristics, rfl⟩
  have hh : ({} : LintOptions).heuristics.Ordinary := Heuristics.default_ordinary
  exact lint_answers_of_ordinary ho hh ht

end TemplateLint
