import TemplateLint.Analysis.Template
import TemplateLint.Fix
import TemplateLint.Lint
import TemplateLint.Outcome

/-!
# Linting a text

The findings about one text, on request with fixes and with a look at its performance.
-/
namespace TemplateLint

/-- How a text is linted. -/
structure LintOptions where
  strict : Bool := false
  fixes : Bool := true
  performance : Bool := true
  type : Option Text := some "auto"
  fields : Entries Value := []
  policy : Policy := .default
  heuristics : Heuristics := .default

/-- What is told about the performance of a text. -/
structure PerformanceSummary where
  metrics : Metrics
  issues : List Finding
  optimizations : List Finding
  renderTime : Number
deriving DecidableEq

/-- The findings about a text with what was asked for beside them. -/
structure LintResult where
  findings : LintFindings
  fixes : Option (List Fix)
  performance : Option PerformanceSummary
  edgeCases : Option (List EdgeCase)
deriving DecidableEq

namespace LintResult

/-- The performance of a text. -/
def performanceOf (h : Heuristics) (dialect : Dialect) (text : Text) :
    Except Fault PerformanceSummary := do
  let a ← TemplateAnalysis.ofSource h {} ⟨inlinePath, dialect, text, Utf8.size text⟩
  pure ⟨a.metrics, a.issues, a.optimizations, a.renderTime⟩

/-- The result for a text whose dialect is known. -/
def ofText (o : LintOptions) (dialect : Dialect) (text : Text) : Except Fault LintResult := do
  let linter : Linter := ⟨o.policy, o.heuristics, o.strict⟩
  let findings ← linter.lint text dialect o.fields
  let fixes := if o.fixes then some (Fix.ofFindings text findings.all) else none
  if o.performance then
    let performance ← performanceOf o.heuristics dialect text
    let edgeCases ← EdgeCases.detect dialect text none o.heuristics
    pure ⟨findings, fixes, some performance, some edgeCases⟩
  else pure ⟨findings, fixes, none, none⟩

end LintResult

/-- Lints a text. -/
def lint (o : LintOptions) (text : Text) : Except Fault (Outcome LintResult) :=
  Outcome.ofRun do
    let dialect ← Dialect.classify none text o.type
    let result ← LintResult.ofText o dialect text
    pure (result, [])

end TemplateLint
