import TemplateLint.Rule.Document
import TemplateLint.Rule.MarkupRules
import TemplateLint.Rule.PolicyRules

/-!
# Rule sets

The rules that run for a dialect under a policy, in their order: policy, security, accessibility and
strict rules for lines, then structure and tag rules for documents.
-/
namespace TemplateLint

/-- The rules that run. -/
structure RuleSet where
  lineRules : List LineRule
  documentRules : List DocumentRule

namespace RuleSet

/-- The rules for a dialect under a policy. -/
def select (policy : Policy) (dialect : Dialect) (strict : Bool) : RuleSet where
  lineRules :=
    (PolicyRules.ofPolicy policy ++ MarkupRules.security ++
      (if policy.checkAccessibility then MarkupRules.accessibility else []) ++
      (if strict then MarkupRules.strict else [])).filter fun r => dialect ∈ r.dialects
  documentRules :=
    DocumentRule.all.filter fun r => dialect ∈ r.dialects ∧ (strict ∨ r.strictOnly = false)

/-- The kinds and the codes of the rules in their order. -/
def listing (rules : RuleSet) : List (Text × Text) :=
  rules.lineRules.map (fun r => (r.kind, r.code)) ++
    rules.documentRules.map fun r => (r.kind, r.code)

end RuleSet

end TemplateLint
