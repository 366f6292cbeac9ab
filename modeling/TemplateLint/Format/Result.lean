import TemplateLint.Operation.Analyze
import TemplateLint.Operation.Lint

/-!
# What formats show

The result of any operation.  The findings of a result come with the path of their template; a finding
without one is shown under the source that the caller names.
-/
namespace TemplateLint

/-- The result of an operation. -/
inductive AnyResult where
  | lint (result : LintResult)
  | analysis (result : AnalysisResult)
  | plan (plan : Plan)

/-- The first text that is there and not empty, or else the inline path. -/
def shownPath (candidates : List (Option Text)) : Text :=
  (candidates.findSome? fun c => c.filter (!·.isEmpty)).getD inlinePath

namespace AnyResult

/-- The findings of a result with their paths. -/
def located (source : Option Text) : AnyResult → List (Text × Finding)
  | lint r => r.findings.all.map fun f => (shownPath [source], f)
  | analysis r => r.report.findings.map fun f => (shownPath [f.template, source], f)
  | plan _ => []

end AnyResult

end TemplateLint
