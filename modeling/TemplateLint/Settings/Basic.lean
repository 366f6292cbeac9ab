import TemplateLint.Settings.Field

/-!
# Settings

A configuration is made of three records.  Each is filled with its defaults and then examined, field
by field in a fixed order, so the first refusal is the one that is reported.  The records keep every
value as it was given; `Configuration.settings` says what the values mean.
-/
namespace TemplateLint

namespace Record

/-- The record with the value of a field made a list. -/
def listed (field : Text) (r : Record) : Except Refusal Record := do
  pure (r.put field (.list (← (r.value field).items)))

/-- The record with a field made a list of names; a single text is refused. -/
def listedNames (field : Text) (r : Record) : Except Refusal Record :=
  match r.value field with
  | .text _ => .error (.textForNames field)
  | _ => r.listed field

/-- Refuses a value that stands for a forbidden accessor, unless it is a name. -/
def checkAccessor (v : Value) : Except Refusal Unit :=
  if !v.holds then .error (.notAnIdentifier v.shown)
  else
    match v with
    | .text name =>
      if Policy.isAccessorName name then .ok () else .error (.notAnIdentifier name.quoted)
    | .moment .. => .error .momentForName
    | v => .error (.notAName v.kind "replace")

/-- The values of a list. -/
def listValues (field : Text) (r : Record) : List Value :=
  match r.value field with
  | .list values => values
  | _ => []

/-- The record of a policy with the given values. -/
def policy (given : Record) : Except Refusal Record := do
  let r ← Schema.policy.fill given
  let r ← r.listedNames "forbidden_accessors"
  let r ← r.listedNames "known_tag_namespaces"
  let r ← r.listedNames "known_modifiers"
  (r.listValues "forbidden_accessors").forM checkAccessor
  pure r

/-- Refuses a value below zero. -/
def checkWeight (r : Record) (field : Text) : Except Refusal Unit := do
  if ← (r.value field).less (.number 0) then throw (.negative field)

/-- Refuses a value that is less than another one. -/
def checkOrder (room : Room) (r : Record) (greater lesser : Text) : Except Refusal Unit := do
  if ← (r.value greater).lessWithin room (r.value lesser) then throw (.outOfOrder greater lesser)

/-- Refuses a value that is not above zero. -/
def checkPositive (r : Record) (field : Text) : Except Refusal Unit := do
  if ← (r.value field).atMostZero then throw (.notPositive field)

/-- Refuses a list without an entry. -/
def checkEntries (r : Record) (field : Text) : Except Refusal Unit :=
  if (r.listValues field).isEmpty then .error (.noEntries field) else .ok ()

/-- The fields of heuristics that must not be negative. -/
def weightFields : List Text :=
  ["score_line_cap", "score_tag_weight", "score_conditional_weight", "score_loop_weight",
    "render_base_ms", "render_loop_ms", "render_conditional_ms", "render_tag_ms",
    "render_critical_penalty_ms", "render_warning_penalty_ms", "score_critical_penalty",
    "score_issue_penalty", "slow_render_penalty", "very_slow_render_penalty"]

/-- The record of heuristics with the given values, if there is room for comparing them. -/
def heuristicsWithin (room : Room) (given : Record) : Except Refusal Record := do
  let r ← Schema.heuristics.fill given
  let r ← r.listed "relationship_names"
  let r ← r.listed "eager_load_markers"
  r.checkPositive "score_line_divisor"
  weightFields.forM r.checkWeight
  r.checkOrder room "very_slow_render_ms" "slow_render_ms"
  r.checkOrder room "memory_limit_threshold" "pagination_threshold"
  r.checkEntries "relationship_names"
  pure r

/-- The record of heuristics with the given values. -/
def heuristics (given : Record) : Except Refusal Record := heuristicsWithin .usual given

/-- Refuses a value that stands for a suffix, unless it starts with a dot. -/
def checkSuffix : Value → Except Refusal Unit
  | .text ('.' :: _) => .ok ()
  | .text _ => .error .suffixWithoutDot
  | v => .error (.notAName v.kind "startswith")

/-- The words for a verbosity. -/
def verbosities : List Text := ["quiet", "normal", "verbose"]

/-- Refuses a value that is no verbosity. -/
def checkVerbosity (v : Value) : Except Refusal Unit :=
  if v.toText?.any (· ∈ verbosities) then .ok () else .error .unknownVerbosity

/-- The record of the general settings with the given values. -/
def general (given : Record) : Except Refusal Record := do
  let r ← Schema.general.fill given
  let r ← r.listed "template_suffixes"
  let r ← r.listed "skip_dirs"
  r.checkEntries "template_suffixes"
  (r.listValues "template_suffixes").forM checkSuffix
  r.checkPositive "max_file_size_mb"
  checkVerbosity (r.value "verbosity")
  pure r

end Record

/-- The policy that a record means. -/
def Policy.ofRecord (r : Record) : Policy where
  forbiddenAccessors := r.names "forbidden_accessors"
  forbidInlineCode := r.flag "forbid_inline_code"
  forbidModelsInView := r.flag "forbid_models_in_view"
  preferTags := r.flag "prefer_tags"
  preferComponents := r.flag "prefer_components"
  checkAccessibility := r.flag "check_accessibility"
  knownNamespaces := r.listValues "known_tag_namespaces"
  knownModifiers := r.listValues "known_modifiers"

/-- The heuristics that a record means. -/
def Heuristics.ofRecord (r : Record) : Heuristics where
  scoreLineDivisor := r.number "score_line_divisor"
  scoreLineCap := r.number "score_line_cap"
  scoreTagWeight := r.number "score_tag_weight"
  scoreConditionalWeight := r.number "score_conditional_weight"
  scoreLoopWeight := r.number "score_loop_weight"
  factorTagCount := r.value "factor_tag_count"
  factorConditionalCount := r.value "factor_conditional_count"
  factorLoopCount := r.value "factor_loop_count"
  factorLineCount := r.value "factor_line_count"
  factorIncludeCount := r.value "factor_include_count"
  renderBaseMs := r.number "render_base_ms"
  renderLoopMs := r.number "render_loop_ms"
  renderConditionalMs := r.number "render_conditional_ms"
  renderTagMs := r.number "render_tag_ms"
  renderCriticalPenaltyMs := r.number "render_critical_penalty_ms"
  renderWarningPenaltyMs := r.number "render_warning_penalty_ms"
  scoreCriticalPenalty := r.number "score_critical_penalty"
  scoreIssuePenalty := r.number "score_issue_penalty"
  slowRenderMs := r.value "slow_render_ms"
  slowRenderPenalty := r.number "slow_render_penalty"
  verySlowRenderMs := r.value "very_slow_render_ms"
  verySlowRenderPenalty := r.number "very_slow_render_penalty"
  relationshipNames := r.listValues "relationship_names"
  eagerLoadMarkers := r.listValues "eager_load_markers"
  paginationThreshold := r.value "pagination_threshold"
  memoryLimitThreshold := r.value "memory_limit_threshold"
  propertyAccessThreshold := r.value "property_access_threshold"
  excessivePartials := r.value "excessive_partials"
  complexConditionalOperators := r.value "complex_conditional_operators"
  repeatedMarkupCount := r.value "repeated_markup_count"
  inlineBlockChars := r.value "inline_block_chars"
  inlinePhpChars := r.value "inline_php_chars"
  longTemplateLines := r.value "long_template_lines"
  inlineStyleAttributes := r.value "inline_style_attributes"
  repeatedStringCount := r.value "repeated_string_count"
  dynamicValueCount := r.value "dynamic_value_count"

/-- The choice of files that a record means. -/
def CollectOptions.ofRecord (r : Record) : CollectOptions where
  suffixes := r.names "template_suffixes"
  skippedFolders := r.names "skip_dirs"
  maxSizeMb := r.value "max_file_size_mb"
  viewsRoot := r.value "views_root"

/-- What a run of the program is set to. -/
structure Settings where
  policy : Policy
  heuristics : Heuristics
  collect : CollectOptions
deriving DecidableEq

namespace Settings

/-- The settings that hold unless others are given. -/
def default : Settings := ⟨.default, .default, .default⟩

end Settings

/-- The three records of a configuration. -/
structure Configuration where
  policy : Record
  heuristics : Record
  general : Record

namespace Configuration

/-- The configuration with the given values of its three records. -/
def ofGiven (policy heuristics general : Record) (room : Room := .usual) :
    Except Refusal Configuration := do
  let policy ← Record.policy policy
  let heuristics ← Record.heuristicsWithin room heuristics
  let general ← Record.general general
  pure ⟨policy, heuristics, general⟩

/-- What the values of a configuration mean. -/
def settings (c : Configuration) : Settings where
  policy := .ofRecord c.policy
  heuristics := .ofRecord c.heuristics
  collect := .ofRecord c.general

end Configuration

end TemplateLint
