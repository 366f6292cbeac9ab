import TemplateLint.Analysis.Caching
import TemplateLint.Analysis.EdgeCases
import TemplateLint.Analysis.Optimizations
import TemplateLint.Metrics
import TemplateLint.Source.Template

/-!
# Template analyses

Everything that is found out about the performance of one template.  The options choose groups of
detectors; each group works by itself.
-/
namespace TemplateLint

/-- Which groups of detectors run, and the score above which a template is complex. -/
structure AnalysisOptions where
  checkRelationships : Bool := true
  analyzeLoops : Bool := true
  suggestCaching : Bool := true
  includePartials : Bool := true
  complexityThreshold : Value := Heuristics.real 50 0
deriving DecidableEq

namespace AnalysisOptions

/-- The options may be used: the threshold is a number that is not negative. -/
def accepted (o : AnalysisOptions) : Bool := o.complexityThreshold.toNumber?.any fun n => !n.lt 0

end AnalysisOptions

/-- Everything found out about one template. -/
structure TemplateAnalysis where
  path : Text
  metrics : Metrics
  issues : List Finding
  caching : List Finding
  optimizations : List Finding
  edgeCases : List EdgeCase
  partials : List Text
  renderTime : Number
deriving DecidableEq

namespace TemplateAnalysis

/-- The number of critical issues. -/
def criticalCount (a : TemplateAnalysis) : Nat := a.issues.countP (·.isCritical)

/-- The detectors of issues that the options ask for, in their order. -/
def issueDetectors (o : AnalysisOptions) : List Detector :=
  (if o.checkRelationships then
    [LoopDetectors.relationships, fun ctx => .ok (LoopDetectors.queries ctx)] else []) ++
  (if o.analyzeLoops then
    [fun ctx => .ok (LoopDetectors.nests ctx), LoopDetectors.unpaginated] else []) ++
  Issues.detectors

/-- What some detectors find, one after another. -/
def runAll (detectors : List Detector) (ctx : AnalysisContext) : Except Fault (List Finding) :=
  gather (fun detect => detect ctx) detectors

/-- The issue that a template is complex, if its score exceeds the threshold. -/
def complexity (ctx : AnalysisContext) (m : Metrics) (threshold : Value) :
    Except Fault (List Finding) := do
  if ← threshold.isBelow m.score then
    let score ← m.score.written
    let limit ← threshold.written
    pure
      [ctx.finding "high_complexity" .performance .warning 0
        ("Template complexity score (" ++ score ++ ") exceeds threshold (" ++ limit ++ ")")
        none (some "Break the template into smaller partials or components")
        [("score", .number m.score), ("factors", .names m.factors)]]
  else pure []

/-- The issues of a template with the given metrics. -/
def issuesOf (o : AnalysisOptions) (ctx : AnalysisContext) (m : Metrics) :
    Except Fault (List Finding) := do
  let complex ← complexity ctx m o.complexityThreshold
  let detected ← runAll (issueDetectors o) ctx
  pure (complex ++ detected)

/-- The analysis of a template.  The log tells the render time, so it has to be written. -/
def ofSource (h : Heuristics) (o : AnalysisOptions) (s : TemplateSource) :
    Except Fault TemplateAnalysis := do
  let ctx := AnalysisContext.ofText s.path s.text s.dialect h
  let metrics ← Metrics.ofText s.dialect s.text h
  let issues ← issuesOf o ctx metrics
  let optimizations ← runAll Optimizations.detectors ctx
  let edgeCases ← EdgeCases.detect s.dialect s.text (some s.path) h
  let renderTime ← metrics.renderTime issues h
  let _ ← renderTime.written
  pure
    { path := s.path
      metrics := metrics
      issues := issues
      caching := if o.suggestCaching then Caching.opportunities ctx else []
      optimizations := optimizations
      edgeCases := edgeCases
      partials := if o.includePartials then EdgeCases.partials s.dialect s.text else []
      renderTime := renderTime }

end TemplateAnalysis

end TemplateLint
