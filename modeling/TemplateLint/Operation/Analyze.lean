import TemplateLint.Operation.Gather
import TemplateLint.Suggestion.Plan
import TemplateLint.Text.Digest

/-!
# Analyzing templates

The report on all templates at a path, with ranked suggestions for what it has found.
-/
namespace TemplateLint

/-- How templates are analyzed. -/
structure AnalyzeOptions where
  type : Option Text := some "auto"
  analysis : AnalysisOptions := { complexityThreshold := 50 }
  settings : Settings := .default

/-- A report with suggestions. -/
structure AnalysisResult where
  report : Report
  suggestions : List Suggestion
deriving DecidableEq

namespace AnalysisResult

/-- The draft of the report on a collection. -/
def draft (h : Heuristics) (o : AnalysisOptions) (c : Collection) : Except Fault ReportDraft :=
  c.sources.foldlM
    (fun d source => do d.add (← TemplateAnalysis.ofSource h o source))
    (c.skipped.foldl (fun d file => d.skip file) .empty)

/-- A report with the suggestions for all that it has found. -/
def ofReport (r : Report) : AnalysisResult :=
  ⟨r, Suggestion.ranked none
    (Suggestion.ofFindings Text.digest false (r.findings ++ r.caching ++ r.optimizations))⟩

/-- The result for a collection. -/
def ofCollection (h : Heuristics) (o : AnalysisOptions) (c : Collection) :
    Except Fault AnalysisResult := do
  pure (ofReport (← (← draft h o c).write h))

end AnalysisResult

/-- Refuses options that may not be used. -/
def AnalysisOptions.check (o : AnalysisOptions) : Except Halt Unit :=
  if o.accepted then .ok ()
  else if o.complexityThreshold.isNumber then do
    let given ← o.complexityThreshold.written
    .error
      (.failure
        (.refusedSetting "complexity_threshold" given "complexity_threshold must be non-negative"))
  else .error (.fault (.notComparable "<" o.complexityThreshold.kind (Value.kind 0)))

/-- Analyzes the templates at a path or in a text. -/
def analyze (w : World) (o : AnalyzeOptions) (given : Text) :
    Except Fault (Outcome AnalysisResult) :=
  Outcome.ofRun do
    let _ ← Dialect.ofType o.type
    o.analysis.check
    let c ← Collection.gather w o.settings.collect o.type given
    let result ← AnalysisResult.ofCollection o.settings.heuristics o.analysis c
    pure (result, noteFor c)

end TemplateLint
