import TemplateLint.Analysis.Issues
import TemplateLint.Rule.TagRules

/-!
# Optimizations

Detectors that report what could be better but does not count against a template: variables that are
never read, large inline styles and scripts, long templates, repeated markup, style attributes and
strings, markup without landmarks, and links that are not encrypted.
-/
namespace TemplateLint
namespace Optimizations

open Pattern

/-- A finding that only informs. -/
def note (ctx : AnalysisContext) (rule : Text) (category : Category) (offset : Nat)
    (message suggestion : Text) (evidence : Option Text) (details : Entries Value) : Finding :=
  ctx.finding rule category .info offset message evidence (some suggestion) details

/-- A whole word. -/
def wholeWord : Pattern := chain [edge, many 1 isWord, edge]

/-- The words of a text. -/
def wordsOf (text : Text) : List Text := (wholeWord.findAll text).map (·.text)

/-- The assigned variables with the offset of the first assignment. -/
def assigned (tags : List Tag) : Entries Nat :=
  (tags.filter (·.isAssignment)).foldl
    (fun found t => if (found.get? t.head).isSome then found else found.put t.head t.start) []

/-- The names that a tag reads. -/
def namesRead (t : Tag) : List Text :=
  if t.isAssignment then wordsOf (t.rest.drop 1)
  else TagRules.rootName t.head :: (wordsOf t.rest ++ t.params.map (·.2))

/-- Variables that are assigned and never read. -/
def unusedVariables (ctx : AnalysisContext) : List Finding :=
  if ctx.dialect = .antlers then
    let tags := Tag.scan ctx.text
    let used := tags.flatMap namesRead
    let unused := (assigned tags).filter fun v => v.1 ∉ used ∧ v.1 ∉ Tag.controlWords
    match unused with
    | [] => []
    | v :: _ =>
      let names := unused.map (·.1)
      [note ctx "unused_variables" .maintainability v.2
        ("Unused variables detected: " ++ (", " : Text).intercalate names)
        "Remove unused variable assignments" none [("variables", .names names)]]
  else []

/-- The attributes of an element and its end. -/
def attributes : Pattern := seq (many 0 (· != '>')) (lit ">")

/-- An inline style. -/
def inlineStyle : Pattern :=
  chain
    [caselessLit "<style", attributes, group 1 (upTo "</style>" caseless), caselessLit "</style>"]

/-- An inline script. -/
def inlineScript : Pattern :=
  chain
    [caselessLit "<script",
      notAhead (chain [many 0 (· != '>'), edge, caselessLit "src="]), attributes,
      group 1 (upTo "</script>" caseless), caselessLit "</script>"]

/-- The first match whose content is longer than a threshold. -/
def firstLarge (threshold : Value) : List Match → Except Fault (Option Match)
  | [] => .ok none
  | m :: more => do
    if ← exceeds (m.group 1).length threshold then pure (some m) else firstLarge threshold more

/-- The first inline block that is large. -/
def largeBlock (ctx : AnalysisContext) (rule : Text) (pattern : Pattern) (label target : Text) :
    Except Fault (List Finding) := do
  match ← firstLarge ctx.heuristics.inlineBlockChars (pattern.findAll ctx.text) with
  | none => pure []
  | some m =>
    let size := (m.group 1).length
    pure
      [note ctx rule .performance m.start
        ("Large inline " ++ label ++ " detected (" ++ Text.ofNat size ++ " characters)")
        ("Move " ++ label ++ " to " ++ target ++ " for better caching") none
        [("size", .count size)]]

/-- Large inline styles and scripts. -/
def externalAssets (ctx : AnalysisContext) : Except Fault (List Finding) := do
  let styles ← largeBlock ctx "inline_styles" inlineStyle "CSS" "external stylesheets"
  let scripts ← largeBlock ctx "inline_scripts" inlineScript "JavaScript" "external files"
  pure (styles ++ scripts)

/-- A template with many lines. -/
def longTemplate (ctx : AnalysisContext) : Except Fault (List Finding) := do
  let lines := ctx.text.lineCount
  if ← exceeds lines ctx.heuristics.longTemplateLines then
    pure
      [note ctx "long_template" .maintainability 0
        ("Long template (" ++ Text.ofNat lines ++
          " lines) could be split into smaller, reusable partials")
        "Extract repeated sections into partials" none [("line_count", .count lines)]]
  else pure []

/-- A division with a class. -/
def classedDivision : Pattern :=
  chain [lit "<div class=\"", group 1 (many 1 (· != '"')), lit "\""]

/-- How often each class occurs, with the offset of the first. -/
def classUses (matches_ : List Match) : Entries (Nat × Nat) :=
  matches_.foldl
    (fun uses m =>
      uses.update (m.group 1) fun old =>
        match old with
        | none => (1, m.start)
        | some (count, start) => (count + 1, start))
    []

/-- The finding about a class with its number of uses and the offset of the first, if it is
repeated. -/
def repeatedClass (ctx : AnalysisContext) (use : Text × Nat × Nat) : Except Fault (List Finding) := do
  let (name, count, start) := use
  if ← exceeds count ctx.heuristics.repeatedMarkupCount then
    pure
      [note ctx "repeated_markup" .maintainability start
        ("Repeated markup pattern '" ++ name ++ "' found " ++ Text.ofNat count ++ " times")
        "Extract the repeated markup into a component or partial" none
        [("pattern", .text name), ("count", .count count)]]
  else pure []

/-- Divisions of one class that are repeated. -/
def repeatedMarkup (ctx : AnalysisContext) : Except Fault (List Finding) :=
  gather (repeatedClass ctx) (classUses (classedDivision.findAll ctx.text))

/-- A style attribute. -/
def styleAttribute : Pattern :=
  chain
    [lit "<", many 1 (· != '>'), one isBlank, caselessLit "style", blanks, lit "=", blanks,
      one (among "\"'"), many 1 (except "\"'"), one (among "\"'")]

/-- Many style attributes. -/
def styleAttributes (ctx : AnalysisContext) : Except Fault (List Finding) := do
  let found := styleAttribute.findAll ctx.text
  if ← exceeds found.length ctx.heuristics.inlineStyleAttributes then
    pure
      [note ctx "inline_style_attributes" .maintainability (← Issues.first found).start
        (Text.ofNat found.length ++ " inline style attributes found")
        "Extract inline styles to reusable CSS classes" none [("count", .count found.length)]]
  else pure []

/-- A string between quotes. -/
def stringLiteral : Pattern :=
  chain
    [one (among "\"'"), group 1 (many 10 (except "\"'\n")), one (among "\"'")]

/-- The values that occur more often than a threshold. -/
def moreFrequent (threshold : Value) : Entries Nat → Except Fault (List Text)
  | [] => .ok []
  | (value, count) :: more => do
    let isFrequent ← threshold.isBelow (.int count)
    let rest ← moreFrequent threshold more
    pure (if isFrequent then value :: rest else rest)

/-- The note on some strings, at the first place of one of them.  A string that occurs nowhere would
stand in front of the first line. -/
def stringsNote (ctx : AnalysisContext) (s : Text) (repeated : List Text) (limit : Text) : Finding :=
  let noteAt := fun offset =>
    note ctx "repeated_strings" .maintainability offset
      (Text.ofNat repeated.length ++ " string values are repeated more than " ++ limit ++ " times")
      "Extract repeated strings to variables" none [("strings", .names repeated)]
  match Text.indexOf? s ctx.text with
  | some offset => noteAt offset
  | none => { noteAt 0 with line := 0 }

/-- Strings that are repeated. -/
def repeatedStrings (ctx : AnalysisContext) : Except Fault (List Finding) := do
  let counts := tally ((stringLiteral.findAll ctx.text).map (·.group 1))
  let frequent ← moreFrequent ctx.heuristics.repeatedStringCount counts
  let repeated := frequent.mergeSort Text.le
  match repeated with
  | [] => pure []
  | s :: _ =>
    let limit ← ctx.heuristics.repeatedStringCount.written
    pure [stringsNote ctx s repeated limit]

/-- A division. -/
def division : Pattern := seq (caselessLit "<div") edge

/-- An element that says which part of a page it is. -/
def landmark : Pattern :=
  chain
    [lit "<",
      oneOf
        [caselessLit "header", caselessLit "nav", caselessLit "main", caselessLit "section",
          caselessLit "article", caselessLit "aside", caselessLit "footer"],
      edge]

/-- Divisions without any landmark. -/
def semanticMarkup (ctx : AnalysisContext) : List Finding :=
  match division.find? ctx.text with
  | none => []
  | some m =>
    if landmark.occursIn ctx.text then []
    else
      [note ctx "non_semantic_markup" .accessibility m.start
        "Template uses generic divs but no semantic landmark elements"
        "Use header, nav, main, section, article, aside or footer where they fit" none []]

/-- A link that is not encrypted. -/
def insecureLink : Pattern :=
  chain
    [caselessLit "href", blanks, lit "=", blanks, one (among "\"'"), caselessLit "http://",
      many 1 (except "\"'"), one (among "\"'")]

/-- Links that are not encrypted; all of them are told at the first. -/
def secureLinks (ctx : AnalysisContext) : List Finding :=
  let links := insecureLink.findAll ctx.text
  match links with
  | [] => []
  | m :: _ =>
    [note ctx "insecure_links" .security m.start
      (Text.ofNat links.length ++ " link(s) use plain HTTP") "Use HTTPS for external links"
      (some m.text) []]

/-- The detectors in their order. -/
def detectors : List Detector :=
  [fun ctx => .ok (unusedVariables ctx), externalAssets, longTemplate, repeatedMarkup,
    styleAttributes, repeatedStrings, fun ctx => .ok (semanticMarkup ctx),
    fun ctx => .ok (secureLinks ctx)]

end Optimizations

end TemplateLint
