import TemplateLint.Block.Loop
import TemplateLint.Finding
import TemplateLint.Heuristics

/-!
# Analysis contexts

What the detectors may read: one template with its loops, and the heuristics.
-/
namespace TemplateLint

/-- One template as the detectors see it. -/
structure AnalysisContext where
  path : Text
  text : Text
  dialect : Dialect
  heuristics : Heuristics
  loops : List Block

namespace AnalysisContext

/-- The context of a template. -/
def ofText (path text : Text) (dialect : Dialect) (heuristics : Heuristics) : AnalysisContext where
  path := path
  text := text
  dialect := dialect
  heuristics := heuristics
  loops := loopsOf dialect text

/-- The finding at an offset of the template. -/
def finding (ctx : AnalysisContext) (rule : Text) (category : Category) (severity : Severity)
    (offset : Nat) (message : Text) (evidence suggestion : Option Text)
    (details : Entries Value) : Finding where
  rule := rule
  category := category
  severity := severity
  line := (Position.ofOffset ctx.text offset).line
  message := message
  evidence := evidence
  suggestion := suggestion
  template := some ctx.path
  details := details

end AnalysisContext

/-- What a detector finds. -/
abbrev Detector := AnalysisContext → Except Fault (List Finding)

/-- A count exceeds a threshold. -/
def exceeds (count : Nat) (threshold : Value) : Except Fault Bool :=
  threshold.isExceededBy (.int count)

/-- What is found in some things, one after another. -/
def gather {α : Type} (look : α → Except Fault (List Finding)) (things : List α) :
    Except Fault (List Finding) := do
  pure (← things.mapM look).flatten

end TemplateLint
