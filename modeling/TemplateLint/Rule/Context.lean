import TemplateLint.Antlers.Tag
import TemplateLint.Finding
import TemplateLint.Heuristics
import TemplateLint.Policy
import TemplateLint.Text.Position

/-!
# Rule contexts

What the rules for whole documents may read.
-/
namespace TemplateLint

/-- What the rules for whole documents may read. -/
structure RuleContext where
  text : Text
  dialect : Dialect
  policy : Policy
  heuristics : Heuristics
  strict : Bool
  /-- The fields of the content and their types. -/
  fields : Entries Value

namespace RuleContext

/-- The finding at an offset. -/
def findingAt (ctx : RuleContext) (rule : Text) (category : Category) (severity : Severity)
    (offset : Nat) (message : Text) (evidence : Text) (suggestion : Option Text) : Finding :=
  let position := Position.ofOffset ctx.text offset
  { rule := rule
    category := category
    severity := severity
    line := position.line
    message := message
    column := some position.column
    evidence := some evidence
    suggestion := suggestion }

end RuleContext

end TemplateLint
