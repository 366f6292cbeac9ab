import TemplateLint.Format.Json
import TemplateLint.Format.Result

/-!
# Results as JSON documents

The document of every result, with all fields in a fixed order.  A value that is missing is null.
-/
namespace TemplateLint

namespace Value

mutual

/-- The document of a value. -/
def toJson : Value → Json
  | null => .null
  | flag b => .bool b
  | number n => .number n
  | text t => .text t
  | moment _ n => .int n
  | list values => .list (toJsonAll values)
  | table entries => .object (toJsonEntries entries)

/-- The documents of the values of a list. -/
def toJsonAll : List Value → List Json
  | [] => []
  | v :: rest => toJson v :: toJsonAll rest

/-- The documents of the entries of a table. -/
def toJsonEntries : List (Text × Value) → List (Text × Json)
  | [] => []
  | (key, v) :: rest => (key, toJson v) :: toJsonEntries rest

end

end Value

namespace Finding

/-- The document of a finding. -/
def toJson (f : Finding) : Json :=
  .object
    [("rule_code", .text f.rule), ("category", .text f.category.name),
      ("severity", .text f.severity.name), ("line", .int f.line), ("message", .text f.message),
      ("column", .orNull .int f.column), ("evidence", .orNull .text f.evidence),
      ("suggestion", .orNull .text f.suggestion), ("template", .orNull .text f.template),
      ("details", .objectOf Value.toJson f.details)]

end Finding

namespace EdgeCase

/-- The document of an edge case. -/
def toJson (c : EdgeCase) : Json :=
  .object
    [("kind", .text c.kind), ("message", .text c.message), ("risk", .text c.risk),
      ("line", .orNull .int c.line)]

end EdgeCase

namespace Metrics

/-- The document of metrics. -/
def toJson (m : Metrics) : Json :=
  .object
    [("line_count", .int m.counts.lines), ("tag_count", .int m.counts.tags),
      ("conditional_count", .int m.counts.conditionals), ("loop_count", .int m.counts.loops),
      ("include_count", .int m.counts.inclusions), ("score", .number m.score),
      ("factors", .texts m.factors)]

end Metrics

namespace Fix

/-- The document of a fix. -/
def toJson : Fix → Json
  | replacement rule line description found written =>
    .object
      [("kind", .text "replacement"), ("rule_code", .text rule), ("line", .int line),
        ("description", .text description), ("original", .text found),
        ("replacement", .text written), ("alternatives", .object [])]
  | alternatives rule line description ways =>
    .object
      [("kind", .text "suggestion"), ("rule_code", .text rule), ("line", .int line),
        ("description", .text description), ("original", .null), ("replacement", .null),
        ("alternatives", .objectOf .text ways)]

end Fix

namespace Suggestion

/-- The document of a suggestion. -/
def toJson (s : Suggestion) : Json :=
  .object
    [("id", .text s.id), ("rule_code", .text s.rule), ("title", .text s.title),
      ("description", .text s.description), ("category", .text s.category.name),
      ("impact", .text s.impact.name), ("effort", .text s.effort.name),
      ("template_path", .orNull .text s.template), ("line", .orNull .int s.line),
      ("before_snippet", .orNull .text s.before), ("after_snippet", .orNull .text s.after),
      ("explanation", .orNull .text s.explanation),
      ("estimated_time_saved_ms", .int s.savedMs), ("occurrences", .int s.occurrences)]

end Suggestion

namespace SkippedFile

/-- The document of a file that was left out. -/
def toJson (f : SkippedFile) : Json :=
  .object [("path", .text f.path), ("reason", .text f.reason)]

end SkippedFile

namespace PerformanceSummary

/-- The document of a performance summary. -/
def toJson (p : PerformanceSummary) : Json :=
  .object
    [("metrics", p.metrics.toJson), ("issues", .listOf Finding.toJson p.issues),
      ("optimizations", .listOf Finding.toJson p.optimizations),
      ("estimated_render_time_ms", .number p.renderTime)]

end PerformanceSummary

namespace LintFindings

/-- The document of the counts of some findings. -/
def statsJson (r : LintFindings) : Json :=
  .object
    [("lines_analyzed", .int r.linesAnalyzed), ("violation_count", .int r.violations.length),
      ("warning_count", .int r.warnings.length)]

end LintFindings

namespace LintResult

/-- The entries of the document of a lint result. -/
def entries (r : LintResult) : List (Text × Json) :=
  [("ok", .bool r.findings.ok), ("dialect", .text r.findings.dialect.name),
    ("violations", .listOf Finding.toJson r.findings.violations),
    ("warnings", .listOf Finding.toJson r.findings.warnings), ("stats", r.findings.statsJson),
    ("suggestions", .orNull (.listOf Fix.toJson) r.fixes),
    ("performance_analysis", .orNull PerformanceSummary.toJson r.performance),
    ("edge_cases", .orNull (.listOf EdgeCase.toJson) r.edgeCases)]

end LintResult

namespace Report

/-- The document of the statistics of a report. -/
def statisticsJson (r : Report) : Json :=
  .object
    [("total_issues", .int r.totalIssues), ("critical_issues", .int r.criticalIssues),
      ("performance_score", .int r.score),
      ("estimated_render_time_ms", .number (.real r.renderTime))]

/-- The document of the summary of a report. -/
def summaryJson (r : Report) : Json :=
  .object
    [("status", .text r.standing.name), ("templates_with_issues", .int r.templatesWithIssues),
      ("most_critical_issues", .texts r.mostCriticalIssues),
      ("estimated_total_render_time", .text r.renderTimeText)]

/-- The entries of the document of a report with some suggestions. -/
def entries (r : Report) (suggestions : List Suggestion) : List (Text × Json) :=
  [("templates_analyzed", .int r.templatesAnalyzed),
    ("findings", .listOf Finding.toJson r.findings),
    ("metrics_by_template", .objectOf Metrics.toJson r.metrics),
    ("statistics", r.statisticsJson), ("summary", r.summaryJson),
    ("suggestions", .listOf Suggestion.toJson suggestions),
    ("caching_opportunities", .listOf Finding.toJson r.caching),
    ("optimizations", .listOf Finding.toJson r.optimizations),
    ("edge_cases", .objectOf (.listOf EdgeCase.toJson) r.edgeCases),
    ("partials_by_template", .objectOf .texts r.partials),
    ("recommendations", .texts r.recommendations),
    ("skipped", .listOf SkippedFile.toJson r.skipped)]

end Report

namespace Roadmap

/-- The document of a roadmap. -/
def toJson (r : Roadmap) : Json :=
  .object
    [("immediate", .texts r.immediate), ("short_term", .texts r.shortTerm),
      ("long_term", .texts r.longTerm)]

end Roadmap

namespace SuggestionStatistics

/-- The document of the counts over some suggestions. -/
def toJson (s : SuggestionStatistics) : Json :=
  .object
    [("total_suggestions", .int s.total), ("high_impact", .int s.highImpact),
      ("quick_wins", .int s.quickWins), ("estimated_time_saved_ms", .int s.savedMs),
      ("optimization_potential", .text s.potential.name),
      ("top_categories", .texts s.topCategories)]

end SuggestionStatistics

namespace Plan

/-- The entries of the document of a plan. -/
def entries (p : Plan) : List (Text × Json) :=
  [("templates_analyzed", .int p.templatesAnalyzed), ("focus", .text p.focus.name),
    ("suggestions", .listOf Suggestion.toJson p.suggestions),
    ("categories", .objectOf (.listOf Suggestion.toJson) p.categories),
    ("roadmap", p.roadmap.toJson), ("statistics", p.statistics.toJson),
    ("skipped", .listOf SkippedFile.toJson p.skipped)]

end Plan

namespace AnyResult

/-- The entries of the document of a result. -/
def entries : AnyResult → List (Text × Json)
  | lint r => r.entries
  | analysis r => r.report.entries r.suggestions
  | plan p => p.entries

/-- The document of a result. -/
def toJson (r : AnyResult) : Json := .object r.entries

/-- The document of a result with the source in front, if there is one. -/
def toJsonFrom (source : Option Text) (r : AnyResult) : Json :=
  match source with
  | some path => .object (("source", .text path) :: r.entries)
  | none => r.toJson

end AnyResult

end TemplateLint
