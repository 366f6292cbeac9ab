import TemplateLint.Rule.TagRules

/-!
# Document rules

The rules that look at a whole document, with their codes, their dialects and what they report.
-/
namespace TemplateLint

/-- The rules that look at a whole document. -/
inductive DocumentRule where
  | blockBalance
  | unterminatedTag
  | componentNaming
  | nestedLoop
  | loopPropertyAccess
  | unknownNamespace
  | emptyControl
  | collectionParams
  | glideParams
  | unknownModifier
  | fieldUsage
deriving DecidableEq

namespace DocumentRule

/-- The rules in the order in which they run: structure, then tags. -/
def all : List DocumentRule :=
  [blockBalance, unterminatedTag, componentNaming, nestedLoop, loopPropertyAccess, unknownNamespace,
    emptyControl, collectionParams, glideParams, unknownModifier, fieldUsage]

/-- The code of a rule. -/
def code : DocumentRule → Text
  | blockBalance => "unclosed_directive"
  | unterminatedTag => "unterminated_tag"
  | componentNaming => "component_naming"
  | nestedLoop => "nested_loops"
  | loopPropertyAccess => "n_plus_one"
  | unknownNamespace => "unknown_namespace"
  | emptyControl => "empty_conditional"
  | collectionParams => "collection_without_params"
  | glideParams => "glide_without_params"
  | unknownModifier => "unknown_modifier"
  | fieldUsage => "field_usage"

/-- The kind of a rule, as listings show it. -/
def kind : DocumentRule → Text
  | blockBalance => "BlockBalanceRule"
  | unterminatedTag => "UnterminatedTagRule"
  | componentNaming => "ComponentNamingRule"
  | nestedLoop => "NestedLoopRule"
  | loopPropertyAccess => "LoopPropertyAccessRule"
  | unknownNamespace => "UnknownNamespaceRule"
  | emptyControl => "EmptyControlRule"
  | collectionParams => "CollectionParamsRule"
  | glideParams => "GlideParamsRule"
  | unknownModifier => "UnknownModifierRule"
  | fieldUsage => "FieldUsageRule"

/-- The dialects that a rule looks at. -/
def dialects : DocumentRule → List Dialect
  | blockBalance | nestedLoop => [.blade, .antlers]
  | componentNaming | loopPropertyAccess => [.blade]
  | _ => [.antlers]

/-- A rule that runs in strict mode only. -/
def strictOnly : DocumentRule → Bool
  | glideParams | unknownModifier => true
  | _ => false

/-- What a rule reports. -/
def check : DocumentRule → RuleContext → List Finding
  | blockBalance, ctx => StructureRules.blockBalance ctx
  | unterminatedTag, ctx => StructureRules.unterminatedTag ctx
  | componentNaming, ctx => StructureRules.componentNaming ctx
  | nestedLoop, ctx => StructureRules.nestedLoops ctx.dialect ctx.text
  | loopPropertyAccess, ctx => StructureRules.loopPropertyAccess ctx
  | unknownNamespace, ctx => TagRules.overTags TagRules.unknownNamespace ctx
  | emptyControl, ctx => TagRules.overTags TagRules.emptyControl ctx
  | collectionParams, ctx => TagRules.overTags TagRules.collectionParams ctx
  | glideParams, ctx => TagRules.overTags TagRules.glideParams ctx
  | unknownModifier, ctx => TagRules.overTags TagRules.unknownModifier ctx
  | fieldUsage, ctx => TagRules.fieldUsage ctx

/-- The fault that keeps a rule from being checked: something that it compares with is of the wrong
kind. -/
def fault? : DocumentRule → RuleContext → Option Fault
  | loopPropertyAccess, ctx => StructureRules.thresholdFault? ctx
  | unknownNamespace, ctx => TagRules.namespaceFault? ctx
  | unknownModifier, ctx => TagRules.modifierFault? ctx
  | fieldUsage, ctx => TagRules.fieldFault? ctx
  | _, _ => none

end DocumentRule

end TemplateLint
