import TemplateLint.Analysis.Template

/-!
# Reports

A report gathers the analyses of many templates.  It is drafted step by step, by adding an analysis or
noting a file that was skipped, and can be written at any time; writing changes nothing.
-/
namespace TemplateLint

/-- The standing of a score. -/
inductive Standing where
  | excellent
  | good
  | needsImprovement
  | poor
deriving DecidableEq

namespace Standing

/-- The name of a standing. -/
def name : Standing → Text
  | excellent => "excellent"
  | good => "good"
  | needsImprovement => "needs_improvement"
  | poor => "poor"

/-- The standing of a score. -/
def ofScore (score : Int) : Standing :=
  if 80 ≤ score then excellent
  else if 60 ≤ score then good
  else if 40 ≤ score then needsImprovement
  else poor

end Standing

/-- The penalty for slow rendering; none if it is fast. -/
def renderPenalty? (h : Heuristics) (renderTime : Number) : Except Fault (Option Number) := do
  if ← h.verySlowRenderMs.isBelow renderTime then pure (some h.verySlowRenderPenalty)
  else if ← h.slowRenderMs.isBelow renderTime then pure (some h.slowRenderPenalty)
  else pure none

/-- The performance score: a hundred less a penalty for every critical issue, every other issue and
slow rendering, but not below zero. -/
def performanceScore (h : Heuristics) (critical total renderTime : Number) :
    Except Fault Int := do
  let criticalLoss ← critical.mul h.scoreCriticalPenalty
  let left ← (Number.int 100).sub criticalLoss
  let others ← total.sub critical
  let otherLoss ← others.mul h.scoreIssuePenalty
  let left ← left.sub otherLoss
  let left ←
    match ← renderPenalty? h renderTime with
    | some penalty => left.sub penalty
    | none => pure left
  pure (max 0 (← left.toInt))

/-- A report with all its parts. -/
structure Report where
  templatesAnalyzed : Nat
  findings : List Finding
  metrics : Entries Metrics
  totalIssues : Nat
  criticalIssues : Nat
  score : Int
  renderTime : Binary64
  standing : Standing
  templatesWithIssues : Nat
  mostCriticalIssues : List Text
  caching : List Finding
  optimizations : List Finding
  edgeCases : Entries (List EdgeCase)
  partials : Entries (List Text)
  recommendations : List Text
  skipped : List SkippedFile
deriving DecidableEq

/-- What is known while a report is drafted. -/
structure ReportDraft where
  templatesAnalyzed : Nat
  templatesWithIssues : Nat
  renderTime : Binary64
  findings : List Finding
  /-- How often each rule has reported a critical finding. -/
  critical : Entries Nat
  caching : List Finding
  optimizations : List Finding
  metrics : Entries Metrics
  edgeCases : Entries (List EdgeCase)
  partials : Entries (List Text)
  skipped : List SkippedFile
deriving DecidableEq

/-- The rules of the critical findings among some. -/
def criticalRules (findings : List Finding) : List Text :=
  (findings.filter (·.isCritical)).map (·.rule)

namespace ReportDraft

/-- The draft without any template. -/
def empty : ReportDraft where
  templatesAnalyzed := 0
  templatesWithIssues := 0
  renderTime := .finite false 0
  findings := []
  critical := []
  caching := []
  optimizations := []
  metrics := []
  edgeCases := []
  partials := []
  skipped := []

/-- Writes a list under a path, unless it is empty. -/
def putUnlessEmpty {α : Type} (path : Text) (values : List α) (entries : Entries (List α)) :
    Entries (List α) :=
  if values.isEmpty then entries else entries.put path values

/-- The draft with an analysis added. -/
def add (d : ReportDraft) (a : TemplateAnalysis) : Except Fault ReportDraft := do
  let time ← a.renderTime.toReal
  pure
    { d with
      templatesAnalyzed := d.templatesAnalyzed + 1
      templatesWithIssues := d.templatesWithIssues + if a.issues.isEmpty then 0 else 1
      renderTime := d.renderTime.add time
      findings := d.findings ++ a.issues
      critical := countAll d.critical (criticalRules a.issues)
      caching := d.caching ++ a.caching
      optimizations := d.optimizations ++ a.optimizations
      metrics := d.metrics.put a.path a.metrics
      edgeCases := putUnlessEmpty a.path a.edgeCases d.edgeCases
      partials := putUnlessEmpty a.path a.partials d.partials }

/-- The draft with a file noted as skipped. -/
def skip (d : ReportDraft) (file : SkippedFile) : ReportDraft :=
  { d with skipped := d.skipped ++ [file] }

/-- An advice if it applies. -/
def advice (applies : Bool) (text : Text) : List Text := if applies then [text] else []

/-- The recommendations that follow from what is known. -/
def recommendations (d : ReportDraft) (critical : Nat) (isSlow : Bool) : List Text :=
  advice (0 < critical)
      "Fix critical performance issues immediately to prevent slow page loads" ++
    advice (!d.caching.isEmpty)
      "Implement suggested caching strategies to improve performance" ++
    advice isSlow
      "Consider breaking down complex templates into smaller components" ++
    advice (5 < d.optimizations.length)
      "Address optimization opportunities to improve maintainability"

/-- The report of what is known. -/
def write (d : ReportDraft) (h : Heuristics) : Except Fault Report := do
  let critical := counted d.critical
  let renderTime := d.renderTime.roundPlaces 1
  let score ← performanceScore h (.int critical) (.int d.findings.length) (.real renderTime)
  let isSlow ← h.slowRenderMs.isBelow (.real renderTime)
  pure
    { templatesAnalyzed := d.templatesAnalyzed
      findings := d.findings
      metrics := d.metrics
      totalIssues := d.findings.length
      criticalIssues := critical
      score := score
      renderTime := renderTime
      standing := Standing.ofScore score
      templatesWithIssues := d.templatesWithIssues
      mostCriticalIssues := mostFrequent 3 d.critical
      caching := d.caching
      optimizations := d.optimizations
      edgeCases := d.edgeCases
      partials := d.partials
      recommendations := d.recommendations critical isSlow
      skipped := d.skipped }

end ReportDraft

namespace Report

/-- The render time as the summary shows it. -/
def renderTimeText (r : Report) : Text := r.renderTime.toShortText ++ "ms"

end Report

end TemplateLint
