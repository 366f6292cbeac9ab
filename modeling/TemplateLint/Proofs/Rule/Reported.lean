import Mathlib.Tactic.SplitIfs
import TemplateLint.Lint

/-!
# Which rules report what

Every rule reports under codes of its own (`DocumentRule.check_reported`, `LineRule.findingsIn_rule`).
So the code of a finding tells which rule has found it; a finding of a line rule also tells the line
in which the rule has found it (`Linter.mem_lineFindings`).
-/
namespace TemplateLint

/-! ## Document rules -/

/-- The codes under which a document rule reports. -/
def DocumentRule.reported : DocumentRule → List Text
  | blockBalance => ["unmatched_directive", "unclosed_directive"]
  | unterminatedTag => ["unterminated_tag"]
  | componentNaming => ["component_naming"]
  | nestedLoop => ["nested_loops"]
  | loopPropertyAccess => ["n_plus_one"]
  | unknownNamespace => ["unknown_namespace"]
  | emptyControl => ["empty_conditional", "empty_loop"]
  | collectionParams => ["collection_without_params"]
  | glideParams => ["glide_without_params"]
  | unknownModifier => ["unknown_modifier"]
  | fieldUsage =>
    ["unknown_field", "missing_date_format", "relationship_field_unclosed", "invalid_asset_modifier",
      "complex_field_usage"]

section
variable {ctx : RuleContext} {t : Tag} {f : Finding}

namespace StructureRules

theorem blockBalance_reported (hf : f ∈ blockBalance ctx) :
    f.rule ∈ DocumentRule.blockBalance.reported := by
  rcases List.mem_append.mp hf with hf | hf
  · obtain ⟨token, -, rfl⟩ := List.mem_map.mp hf
    exact List.mem_cons_self
  · obtain ⟨token, -, rfl⟩ := List.mem_map.mp hf
    exact List.mem_cons_of_mem _ List.mem_cons_self

theorem loopPropertyAccess_reported (hf : f ∈ loopPropertyAccess ctx) :
    f.rule ∈ DocumentRule.loopPropertyAccess.reported := by
  obtain ⟨block, -, hof⟩ := List.mem_filterMap.mp hf
  dsimp only at hof
  split at hof
  · obtain rfl := Option.some.inj hof
    exact List.mem_singleton.mpr rfl
  · cases hof

end StructureRules

namespace TagRules

/-- A finding about a tag has the code that it was made with. -/
theorem rule_of_mem_tagFinding {code message : Text} {category : Category} {severity : Severity}
    {suggestion : Option Text}
    (hf : f ∈ [tagFinding ctx t code category severity message suggestion]) : f.rule = code := by
  rw [List.mem_singleton.mp hf]
  rfl

/-- A rule over the opening tags reports what it reports about one of them. -/
theorem overTags_reported {check : RuleContext → Tag → List Finding} {codes : List Text}
    (hcheck : ∀ {t f}, f ∈ check ctx t → f.rule ∈ codes) (hf : f ∈ overTags check ctx) :
    f.rule ∈ codes := by
  obtain ⟨t, -, hf⟩ := List.mem_flatMap.mp hf
  exact hcheck hf

theorem unknownNamespace_reported (hf : f ∈ unknownNamespace ctx t) :
    f.rule ∈ DocumentRule.unknownNamespace.reported := by
  rw [unknownNamespace] at hf
  split at hf
  · cases hf
  · exact List.mem_singleton.mpr (rule_of_mem_tagFinding hf)

theorem emptyControl_reported (hf : f ∈ emptyControl ctx t) :
    f.rule ∈ DocumentRule.emptyControl.reported := by
  rw [emptyControl] at hf
  split_ifs at hf
  · rw [rule_of_mem_tagFinding hf]
    decide
  · rw [rule_of_mem_tagFinding hf]
    decide
  · cases hf

theorem collectionParams_reported (hf : f ∈ collectionParams ctx t) :
    f.rule ∈ DocumentRule.collectionParams.reported := by
  rw [collectionParams] at hf
  split at hf
  · exact List.mem_singleton.mpr (rule_of_mem_tagFinding hf)
  · cases hf

theorem glideParams_reported (hf : f ∈ glideParams ctx t) :
    f.rule ∈ DocumentRule.glideParams.reported := by
  rw [glideParams] at hf
  split at hf
  · exact List.mem_singleton.mpr (rule_of_mem_tagFinding hf)
  · cases hf

theorem unknownModifier_reported (hf : f ∈ unknownModifier ctx t) :
    f.rule ∈ DocumentRule.unknownModifier.reported := by
  obtain ⟨modifier, -, rfl⟩ := List.mem_map.mp hf
  exact List.mem_singleton.mpr rfl

theorem fieldUse_reported (hf : f ∈ fieldUse ctx t) : f.rule ∈ DocumentRule.fieldUsage.reported := by
  rw [fieldUse] at hf
  split at hf
  · cases hf
  split at hf
  · rw [unknownField] at hf
    split at hf
    · rw [rule_of_mem_tagFinding hf]
      decide
    · cases hf
  · rw [typedField] at hf
    split_ifs at hf
    · rw [rule_of_mem_tagFinding hf]
      decide
    · rw [rule_of_mem_tagFinding hf]
      decide
    · rw [rule_of_mem_tagFinding hf]
      decide
    · rw [rule_of_mem_tagFinding hf]
      decide
    · cases hf

end TagRules

/-- A document rule reports under its own codes only. -/
theorem DocumentRule.check_reported {rule : DocumentRule} (hf : f ∈ rule.check ctx) :
    f.rule ∈ rule.reported := by
  cases rule with
  | blockBalance => exact StructureRules.blockBalance_reported hf
  | unterminatedTag =>
    obtain ⟨start, -, rfl⟩ := List.mem_map.mp hf
    exact List.mem_singleton.mpr rfl
  | componentNaming =>
    obtain ⟨m, -, rfl⟩ := List.mem_map.mp hf
    exact List.mem_singleton.mpr rfl
  | nestedLoop =>
    obtain ⟨nest, -, rfl⟩ := List.mem_map.mp hf
    exact List.mem_singleton.mpr rfl
  | loopPropertyAccess => exact StructureRules.loopPropertyAccess_reported hf
  | unknownNamespace => exact TagRules.overTags_reported TagRules.unknownNamespace_reported hf
  | emptyControl => exact TagRules.overTags_reported TagRules.emptyControl_reported hf
  | collectionParams => exact TagRules.overTags_reported TagRules.collectionParams_reported hf
  | glideParams => exact TagRules.overTags_reported TagRules.glideParams_reported hf
  | unknownModifier => exact TagRules.overTags_reported TagRules.unknownModifier_reported hf
  | fieldUsage =>
    obtain ⟨t, -, hf⟩ := List.mem_flatMap.mp hf
    exact TagRules.fieldUse_reported hf

end

/-! ## Line rules -/

/-- A line rule reports under its own code, at the number of the line. -/
theorem LineRule.findingsIn_rule {rule : LineRule} {number : Nat} {line : Text} {f : Finding}
    (hf : f ∈ rule.findingsIn number line) : f.rule = rule.code ∧ f.line = number := by
  obtain ⟨m, -, rfl⟩ := List.mem_map.mp hf
  exact ⟨rfl, rfl⟩

/-- What a line rule reports about a line, one of its patterns has found there. -/
theorem LineRule.exists_pattern_of_findingsIn {rule : LineRule} {number : Nat} {line : Text}
    {f : Finding} (hf : f ∈ rule.findingsIn number line) :
    ∃ group ∈ rule.groups, ∃ p ∈ group, ∃ m, p.pattern.find? line = some m := by
  obtain ⟨found, hfound, -⟩ := List.mem_map.mp hf
  rw [matchesIn] at hfound
  split at hfound
  · cases hfound
  obtain ⟨group, hgroup, hfirst⟩ := List.mem_filterMap.mp hfound
  obtain ⟨p, hp, hmatch⟩ := List.exists_of_findSome?_eq_some hfirst
  obtain ⟨m, hm, -⟩ := Option.map_eq_some_iff.mp hmatch
  exact ⟨group, hgroup, p, hp, m, hm⟩

/-- What the line rules report, one of them reports about one of the lines. -/
theorem Linter.mem_lineFindings {rules : List LineRule} {number : Nat} {lines : List Text}
    {f : Finding} (hf : f ∈ lineFindings rules number lines) :
    ∃ index line rule, lines[index]? = some line ∧ rule ∈ rules ∧
      f ∈ rule.findingsIn (number + index) line := by
  induction lines generalizing number with
  | nil => cases hf
  | cons line lines ih =>
    rw [lineFindings] at hf
    rcases List.mem_append.mp hf with hf | hf
    · obtain ⟨rule, hrule, hf⟩ := List.mem_flatMap.mp hf
      exact ⟨0, line, rule, rfl, hrule, hf⟩
    · obtain ⟨index, later, rule, hline, hrule, hf⟩ := ih hf
      refine ⟨index + 1, later, rule, hline, hrule, ?_⟩
      rw [Nat.add_assoc, Nat.add_comm 1] at hf
      exact hf

/-- The codes of the rules about policies. -/
def PolicyRules.codes : List Text :=
  ["inline_php", "facade_call", "models_in_view", "database_calls", "http_calls",
    "prefer_statamic_tags", "suggest_component"]

/-- The rules about policies have their own codes, whatever the policy asks for. -/
theorem PolicyRules.ofPolicy_code {policy : Policy} {r : LineRule} (hr : r ∈ ofPolicy policy) :
    r.code ∈ codes := by
  have honly : ∀ {flag : Bool} {rule : LineRule}, rule.code ∈ codes → r ∈ onlyIf flag rule →
      r.code ∈ codes := by
    intro flag rule hrule hr
    cases flag with
    | false => cases hr
    | true => exact List.mem_singleton.mp hr ▸ hrule
  simp only [ofPolicy, List.mem_append] at hr
  rcases hr with ((((hr | hr) | hr) | hr) | hr) | hr
  · exact honly (by decide) hr
  · have hcode : (facadeCall policy.forbiddenAccessors).code = "facade_call" := rfl
    refine honly ?_ hr
    rw [hcode]
    decide
  · exact honly (by decide) hr
  · have hboth : ∀ rule ∈ [databaseCalls, httpCalls], rule.code ∈ codes := by decide
    exact hboth r hr
  · exact honly (by decide) hr
  · exact honly (by decide) hr

/-- The rules that run: rules about the policy, rules about markup, and each for its own dialects. -/
theorem RuleSet.mem_lineRules {policy : Policy} {dialect : Dialect} {strict : Bool} {r : LineRule}
    (hr : r ∈ (select policy dialect strict).lineRules) :
    (r ∈ PolicyRules.ofPolicy policy ∨
      r ∈ MarkupRules.security ++ MarkupRules.accessibility ++ MarkupRules.strict) ∧
      dialect ∈ r.dialects := by
  simp only [select, List.mem_filter, List.mem_append, decide_eq_true_eq] at hr
  obtain ⟨hr, hdialect⟩ := hr
  refine ⟨?_, hdialect⟩
  simp only [List.mem_append]
  rcases hr with ((hpolicy | hsecure) | haccess) | hstrict
  · exact Or.inl hpolicy
  · exact Or.inr (Or.inl (Or.inl hsecure))
  · split at haccess
    · exact Or.inr (Or.inl (Or.inr haccess))
    · cases haccess
  · split at hstrict
    · exact Or.inr (Or.inr hstrict)
    · cases hstrict

end TemplateLint
