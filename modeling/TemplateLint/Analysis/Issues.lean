import TemplateLint.Analysis.Context

/-!
# Issues

Detectors that look at a whole template and report warnings: many inclusions, long conditions, large
code blocks, calls of facades, and values that keep a page from being cached.
-/
namespace TemplateLint
namespace Issues

open Pattern

/-- The first entry; an empty list has none. -/
def first : List Match → Except Fault Match
  | [] => .error .indexOutOfRange
  | m :: _ => .ok m

/-- A template with many inclusions. -/
def excessivePartials (ctx : AnalysisContext) : Except Fault (List Finding) := do
  match ctx.dialect.structure? with
  | none => pure []
  | some s =>
    let inclusions := s.inclusion.findAll ctx.text
    if ← exceeds inclusions.length ctx.heuristics.excessivePartials then
      pure
        [ctx.finding "excessive_partials" .performance .warning (← first inclusions).start
          ("Found " ++ Text.ofNat inclusions.length ++ " partial includes") none
          (some "Consider combining related partials or using components")
          [("count", .count inclusions.length)]]
    else pure []

/-- A condition of a tag template. -/
def antlersCondition : Pattern :=
  chain
    [Dialect.tagStart,
      oneOf [caselessLit "if", caselessLit "elseif", caselessLit "unless"], one isBlank,
      group 1 (many 1 (· != '\x7d')), lit closeBraces]

/-- The directive of a condition. -/
def bladeCondition : Pattern :=
  chain [lit "@", oneOf [lit "if", lit "elseif", lit "unless"], edge]

/-- The conditions of a template with their offsets. -/
def conditions (dialect : Dialect) (text : Text) : List (Nat × Text) :=
  match dialect with
  | .antlers => (antlersCondition.findAll text).map fun m => (m.start, m.group 1)
  | .blade =>
    (bladeCondition.findAll text).filterMap fun m =>
      let stop := Arguments.stop text m.stop
      if m.stop < stop then some (m.start, Text.slice text m.stop stop) else none
  | .unknown => []

/-- An operator that joins conditions. -/
def booleanOperator : Pattern :=
  oneOf
    [lit "||", lit "&&", lit "?:", chain [edge, oneOf [lit "and", lit "or"], edge]]

/-- The finding about a condition at an offset, if it has many operators. -/
def complexCondition (ctx : AnalysisContext) (c : Nat × Text) : Except Fault (List Finding) := do
  let operators := booleanOperator.countIn c.2
  if ← exceeds operators ctx.heuristics.complexConditionalOperators then
    pure
      [ctx.finding "complex_conditional" .maintainability .warning c.1
        ("Complex conditional with " ++ Text.ofNat operators ++ " boolean operators")
        (some (c.2.strip.take 100))
        (some "Move the condition into a computed value or view model")
        [("operators", .count operators)]]
  else pure []

/-- Conditions with many operators. -/
def complexConditionals (ctx : AnalysisContext) : Except Fault (List Finding) :=
  gather (complexCondition ctx) (conditions ctx.dialect ctx.text)

/-- A block of code. -/
def codeBlock : Pattern :=
  chain [lit "@php", edge, group 1 (upTo "@endphp" id), lit "@endphp"]

/-- The finding about a block of code, if it is large. -/
def largeCode (ctx : AnalysisContext) (m : Match) : Except Fault (List Finding) := do
  let size := (m.group 1).strip.length
  if ← exceeds size ctx.heuristics.inlinePhpChars then
    pure
      [ctx.finding "excessive_inline_php" .maintainability .warning m.start
        ("Large PHP block in template (" ++ Text.ofNat size ++ " characters)") none
        (some "Move logic to a view composer, component class or controller")
        [("size", .count size)]]
  else pure []

/-- Large blocks of code. -/
def inlineCode (ctx : AnalysisContext) : Except Fault (List Finding) :=
  if ctx.dialect = .blade then gather (largeCode ctx) (codeBlock.findAll ctx.text) else .ok []

/-- The call of a facade. -/
def facadeCall : Pattern :=
  chain
    [Dialect.tagStart, maybe (lit "\\"),
      group 1
        (oneOf
          [caselessLit "auth", caselessLit "cache", caselessLit "db", caselessLit "log",
            caselessLit "storage", caselessLit "config"]),
      lit "::"]

/-- Some words in their order, each once. -/
def sortedOnce (words : List Text) : List Text := (firstSeen words).mergeSort Text.le

/-- Calls of facades; all of them are told at the first. -/
def facades (ctx : AnalysisContext) : List Finding :=
  if ctx.dialect = .blade then
    let calls := facadeCall.findAll ctx.text
    match calls with
    | [] => []
    | m :: _ =>
      let names := sortedOnce (calls.map (·.group 1))
      [ctx.finding "facade_in_template" .performance .warning m.start
        ("Direct facade usage in template: " ++ (", " : Text).intercalate names) (some m.text)
        (some "Pass the data from the controller or use a view composer")
        [("facades", .names names)]]
  else []

/-- A value that differs from one request to the next. -/
def dynamicValue : Pattern :=
  oneOf
    [chain
      [Dialect.tagStart, oneOf [lit "now", lit "current_date", lit "today", lit "random"], edge],
      seq edge (lit "now()"),
      seq edge (lit "rand("),
      lit "Str::random("]

/-- Many values that keep a page from being cached. -/
def uncachedDynamic (ctx : AnalysisContext) : Except Fault (List Finding) := do
  let values := dynamicValue.findAll ctx.text
  if ← exceeds values.length ctx.heuristics.dynamicValueCount then
    pure
      [ctx.finding "uncached_dynamic" .performance .warning (← first values).start
        "Multiple dynamic content blocks prevent full-page caching" none
        (some "Use fragment caching or move dynamic values into a small uncached partial")
        [("count", .count values.length)]]
  else pure []

/-- The detectors in their order. -/
def detectors : List Detector :=
  [excessivePartials, complexConditionals, inlineCode, fun ctx => .ok (facades ctx),
    uncachedDynamic]

end Issues

end TemplateLint
