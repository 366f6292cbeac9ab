import TemplateLint.Entries
import TemplateLint.Heuristics
import TemplateLint.Policy
import TemplateLint.Settings.Order
import TemplateLint.Source.Collection

/-!
# Fields of settings

The three records of settings with their fields: what kind of value each field takes from the
environment, and what it is unless something else is given.
-/
namespace TemplateLint

/-- How the value of a field is read from the environment. -/
inductive FieldKind where
  | flag
  | whole
  | real
  /-- Names with commas between them. -/
  | names
  | word
deriving DecidableEq

/-- A field of a record. -/
structure Field where
  name : Text
  kind : FieldKind
  default : Value

/-- A record of settings: its name, as messages show it, and its fields. -/
structure Schema where
  record : Text
  fields : List Field

/-- Values by the names of the fields. -/
abbrev Record := Entries Value

namespace Record

/-- The value of a field. -/
def value (field : Text) (r : Record) : Value := (r.get? field).getD .null

/-- The value of a field as a number. -/
def number (field : Text) (r : Record) : Number := ((r.value field).toNumber?).getD 0

/-- The value of a field as a yes or no. -/
def flag (field : Text) (r : Record) : Bool := (r.value field).holds

/-- The value of a field as names. -/
def names (field : Text) (r : Record) : List Text := (r.value field).texts

end Record

namespace Schema

/-- The name under which a record refers to itself. -/
def ownName : Text := "self"

/-- The fields of a record with the given values, and with the defaults for all others. -/
def fill (s : Schema) (given : Record) : Except Refusal Record :=
  match given.keys.find? fun key => !s.fields.any (·.name = key) with
  | some key =>
    .error (if key = ownName then .reservedKey s.record key else .unknownKey s.record key)
  | none => .ok (s.fields.map fun f => (f.name, (given.get? f.name).getD f.default))

/-- A field for a yes or no. -/
def flagField (name : Text) (default : Bool) : Field := ⟨name, .flag, .flag default⟩

/-- A field for a number that is an integer by default. -/
def wholeField (name : Text) (default : Value) : Field := ⟨name, .whole, default⟩

/-- A field for a number that is a floating-point number by default. -/
def realField (name : Text) (default : Value) : Field := ⟨name, .real, default⟩

/-- A field for names. -/
def namesField (name : Text) (default : List Value) : Field := ⟨name, .names, .list default⟩

/-- The fields of a policy. -/
def policy : Schema where
  record := "LintPolicy"
  fields :=
    let p := Policy.default
    [namesField "forbidden_accessors" p.forbiddenAccessors,
      flagField "forbid_inline_code" p.forbidInlineCode,
      flagField "forbid_models_in_view" p.forbidModelsInView,
      flagField "prefer_tags" p.preferTags,
      flagField "prefer_components" p.preferComponents,
      flagField "check_accessibility" p.checkAccessibility,
      namesField "known_tag_namespaces" p.knownNamespaces,
      namesField "known_modifiers" p.knownModifiers]

/-- The fields of heuristics. -/
def heuristics : Schema where
  record := "HeuristicConfig"
  fields :=
    let h := Heuristics.default
    [realField "score_line_divisor" h.scoreLineDivisor,
      realField "score_line_cap" h.scoreLineCap,
      realField "score_tag_weight" h.scoreTagWeight,
      realField "score_conditional_weight" h.scoreConditionalWeight,
      realField "score_loop_weight" h.scoreLoopWeight,
      wholeField "factor_tag_count" h.factorTagCount,
      wholeField "factor_conditional_count" h.factorConditionalCount,
      wholeField "factor_loop_count" h.factorLoopCount,
      wholeField "factor_line_count" h.factorLineCount,
      wholeField "factor_include_count" h.factorIncludeCount,
      realField "render_base_ms" h.renderBaseMs,
      realField "render_loop_ms" h.renderLoopMs,
      realField "render_conditional_ms" h.renderConditionalMs,
      realField "render_tag_ms" h.renderTagMs,
      realField "render_critical_penalty_ms" h.renderCriticalPenaltyMs,
      realField "render_warning_penalty_ms" h.renderWarningPenaltyMs,
      wholeField "score_critical_penalty" h.scoreCriticalPenalty,
      wholeField "score_issue_penalty" h.scoreIssuePenalty,
      realField "slow_render_ms" h.slowRenderMs,
      wholeField "slow_render_penalty" h.slowRenderPenalty,
      realField "very_slow_render_ms" h.verySlowRenderMs,
      wholeField "very_slow_render_penalty" h.verySlowRenderPenalty,
      namesField "relationship_names" h.relationshipNames,
      namesField "eager_load_markers" h.eagerLoadMarkers,
      wholeField "pagination_threshold" h.paginationThreshold,
      wholeField "memory_limit_threshold" h.memoryLimitThreshold,
      wholeField "property_access_threshold" h.propertyAccessThreshold,
      wholeField "excessive_partials" h.excessivePartials,
      wholeField "complex_conditional_operators" h.complexConditionalOperators,
      wholeField "repeated_markup_count" h.repeatedMarkupCount,
      wholeField "inline_block_chars" h.inlineBlockChars,
      wholeField "inline_php_chars" h.inlinePhpChars,
      wholeField "long_template_lines" h.longTemplateLines,
      wholeField "inline_style_attributes" h.inlineStyleAttributes,
      wholeField "repeated_string_count" h.repeatedStringCount,
      wholeField "dynamic_value_count" h.dynamicValueCount]

/-- The fields of a configuration, its policy and its heuristics apart. -/
def general : Schema where
  record := "AnalysisConfig"
  fields :=
    let o := CollectOptions.default
    [namesField "template_suffixes" o.suffixes,
      namesField "skip_dirs" o.skippedFolders,
      realField "max_file_size_mb" o.maxSizeMb,
      ⟨"views_root", .word, .null⟩,
      ⟨"verbosity", .word, .text "normal"⟩]

end Schema

end TemplateLint
