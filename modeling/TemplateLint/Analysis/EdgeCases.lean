import TemplateLint.Analysis.LoopDetectors

/-!
# Edge cases

Risks that are told beside the findings: a template that includes itself, a cap so large that memory
may run out, loops that may not end, and output that is not escaped.
-/
namespace TemplateLint
namespace EdgeCases

open Pattern

/-- The inclusion of a partial in a tag template. -/
def antlersInclusion : Pattern :=
  chain
    [Dialect.tagStart, lit "partial:", group 1 (many 1 fun c => isWord c || among "/.-" c)]

/-- The inclusion of a partial in a directive template. -/
def bladeInclusion : Pattern :=
  chain
    [lit "@",
      oneOf
        [lit "include", lit "includeIf", lit "includeWhen", lit "includeFirst", lit "each"],
      blanks, lit "(", blanks, one (among "'\""), group 1 (many 1 (except "'\"")),
      one (among "'\"")]

/-- The names of the partials that a template includes, each once. -/
def partials (dialect : Dialect) (text : Text) : List Text :=
  match dialect with
  | .antlers => firstSeen ((antlersInclusion.findAll text).map (·.group 1))
  | .blade => firstSeen ((bladeInclusion.findAll text).map (·.group 1))
  | .unknown => []

/-- The suffixes that a template name drops. -/
def templateSuffixes : List Text :=
  [".blade.php", ".antlers.html", ".antlers.php", ".html", ".php"]

/-- A text without a suffix. -/
def dropSuffix (suffix text : Text) : Text := text.take (text.length - suffix.length)

/-- A text without underscores at its start. -/
def dropUnderscores (text : Text) : Text := text.dropWhile (· == '_')

/-- The last component of a path; dots that stand for a directory itself do not count. -/
def lastComponent (path : Text) : Text :=
  let components := (List.splitOn '/' path).filter fun c => c ≠ [] ∧ c ≠ ['.']
  components.getLastD []

/-- The name under which other templates include a template. -/
def templateName (path : Text) : Text :=
  let name := lastComponent (path.map fun c => if c = '\\' then '/' else c)
  match templateSuffixes.find? (·.isSuffixOf name) with
  | some suffix => dropUnderscores (dropSuffix suffix name)
  | none => dropUnderscores name

/-- The name that an inclusion leads to: what follows the last slash or dot. -/
def referenceName (reference : Text) : Text :=
  dropUnderscores
    (reference.reverse.takeWhile fun c => c != '/' && c != '.').reverse

/-- The risk at an offset. -/
def riskAt (text : Text) (kind risk : Text) (offset : Nat) (message : Text) : EdgeCase :=
  ⟨kind, message, risk, some (Position.ofOffset text offset).line⟩

/-- The template has a path of its own. -/
def hasPath (path : Text) : Bool := !path.isEmpty && path.head? != some '<'

/-- A template that includes itself by name. -/
def recursion (dialect : Dialect) (text : Text) (path : Option Text) : List EdgeCase :=
  match path.filter hasPath with
  | none => []
  | some path =>
    let pattern := if dialect = .antlers then antlersInclusion else bladeInclusion
    match (pattern.findAll text).find? fun m => referenceName (m.group 1) == templateName path with
    | none => []
    | some m =>
      [riskAt text "potential_recursion" "warning" m.start
        ("Template includes '" ++ m.group 1 ++ "', which resolves to itself")]

/-- A cap on the items of a loop in either dialect. -/
def itemCap : Pattern := alt LoopDetectors.antlersCap LoopDetectors.bladeCap

/-- The first cap above a threshold. -/
def firstExcess (threshold : Value) : List Match → Except Fault (Option (Match × Nat))
  | [] => .ok none
  | m :: more => do
    let cap ← readDigits (m.group 1)
    if ← threshold.isBelow (.int cap) then pure (some (m, cap))
    else firstExcess threshold more

/-- A cap so large that memory may run out; only the first is told. -/
def memory (text : Text) (threshold : Value) : Except Fault (List EdgeCase) := do
  match ← firstExcess threshold (itemCap.findAll text) with
  | none => pure []
  | some (m, cap) =>
    pure
      [riskAt text "memory_intensive" "critical" m.start
        ("Very large limit (" ++ Text.ofNat cap ++ ") may cause memory issues")]

/-- A loop with a condition. -/
def whileLoop? : Dialect → Option Pattern
  | .blade => some (Dialect.directiveCall ["while"])
  | .antlers => some (chain [Dialect.tagStart, lit "while", one isBlank])
  | .unknown => none

/-- Output that is not escaped, with its message. -/
def rawOutput? : Dialect → Option (Pattern × Text)
  | .blade => some (lit "\x7b!!", "Unescaped output detected - ensure data is sanitized")
  | .antlers =>
    some
      (oneOf [lit "\x7b\x7b\x7b", chain [lit "|", blanks, lit "raw", edge]],
        "Triple braces or the raw modifier output unescaped HTML - ensure data is sanitized")
  | .unknown => none

/-- A loop that may not end; only the first is told. -/
def endless (dialect : Dialect) (text : Text) : List EdgeCase :=
  match (whileLoop? dialect).bind (·.find? text) with
  | none => []
  | some m =>
    [riskAt text "infinite_loop_risk" "critical" m.start
      "While loops can run forever if not properly bounded"]

/-- Output that is not escaped; only the first is told. -/
def unescaped (dialect : Dialect) (text : Text) : List EdgeCase :=
  match rawOutput? dialect with
  | none => []
  | some (pattern, message) =>
    match pattern.find? text with
    | none => []
    | some m => [riskAt text "xss_risk" "high" m.start message]

/-- The risks of a template. -/
def detect (dialect : Dialect) (text : Text) (path : Option Text) (h : Heuristics) :
    Except Fault (List EdgeCase) := do
  let memory ← memory text h.memoryLimitThreshold
  pure (recursion dialect text path ++ memory ++ endless dialect text ++ unescaped dialect text)

end EdgeCases

end TemplateLint
