import TemplateLint.Policy
import TemplateLint.Rule.Line

/-!
# Policy rules

A directive template renders data and does not fetch it.  Raw code, calls of forbidden accessors,
model queries, database access and requests are violations; which of them are looked for is the
policy's choice.
-/
namespace TemplateLint
namespace PolicyRules

open Pattern LineRule

/-- The calls that a tag replaces, with the tag. -/
def preferredTags : List (Text × Text) :=
  [("Entry::whereCollection", "<x-statamic:entries>"),
    ("Collection::findByHandle", "<x-statamic:collection>"),
    ("Taxonomy::findByHandle", "<x-statamic:taxonomy>"),
    ("Asset::whereContainer", "<x-statamic:assets>")]

/-- The tag that replaces a call in a text. -/
def preferredTagFor? (text : Text) : Option Text :=
  (preferredTags.find? fun p => Text.contains text p.1).map (·.2)

/-- The end of every message about accessors. -/
def useComponents : Text := " Use Statamic Blade components instead."

/-- The ways to call an accessor, the most telling first. -/
def accessorGroup (name : Text) : List LinePattern :=
  [⟨chain [lit "\\", lit name, lit "\\Facades\\"],
      "Direct " ++ name ++ " facade call." ++ useComponents⟩,
    ⟨chain [lit "\\", lit name, lit "\\"], name ++ " namespace usage." ++ useComponents⟩,
    ⟨chain [lit "use", many 1 isBlank, lit name, lit "\\"],
      name ++ " import statement." ++ useComponents⟩,
    ⟨chain [notAfter (fun c => isWord c || among "\\$>" c), lit name, lit "::"],
      "Static " ++ name ++ " accessor call." ++ useComponents⟩]

/-- Calls of forbidden accessors; each accessor counts once in a line. -/
def facadeCall (accessors : List Text) : LineRule where
  kind := "AccessorRule"
  code := "facade_call"
  category := .policy
  severity := .error
  dialects := [.blade]
  suggestion :=
    some "Use Statamic Blade components or tags instead of calling the accessor directly"
  groups := accessors.map accessorGroup

/-- Raw code. -/
def inlinePhp : LineRule where
  code := "inline_php"
  category := .policy
  severity := .error
  dialects := [.blade]
  suggestion := some "Move the logic into a controller, view composer or component"
  groups := alone
    [(seq (lit "@php") edge,
        "@php directive found. Use Blade components or move logic to controllers."),
      (lit "<?php", "PHP opening tag found. Use Blade components or move logic to controllers."),
      (lit "?>", "PHP closing tag found. Use Blade components or move logic to controllers.")]

/-- The end of the messages about models. -/
def moveFetching : Text := " Move data fetching to controllers or view composers."

/-- Use of models and queries. -/
def modelsInView : LineRule where
  code := "models_in_view"
  category := .policy
  severity := .error
  dialects := [.blade]
  groups := alone
    [(lit "\\App\\Models\\", "Direct model usage in view." ++ moveFetching),
      (seq edge (lit "Model::"), "Static model method call." ++ moveFetching),
      (lit "->where(", "Query builder usage in view." ++ moveFetching),
      (lit "::query()", "Eloquent query in view." ++ moveFetching)]

/-- The end of the messages about databases. -/
def moveToLayer : Text := " Move to controller or service layer."

/-- Database access. -/
def databaseCalls : LineRule where
  code := "database_calls"
  category := .policy
  severity := .error
  dialects := [.blade]
  groups := alone
    [(seq (notAfter fun c => isWord c || c == '\\') (lit "DB::"),
        "Direct database query in view." ++ moveToLayer),
      (lit "\\DB::", "Database facade usage in view." ++ moveToLayer),
      (lit "->select(", "Raw SQL select in view." ++ moveToLayer),
      (lit "->insert(", "Raw SQL insert in view." ++ moveToLayer),
      (lit "->update(", "Raw SQL update in view." ++ moveToLayer),
      (lit "->delete(", "Raw SQL delete in view." ++ moveToLayer)]

/-- The end of the messages about requests. -/
def moveRequests : Text := " Move HTTP requests to controllers."

/-- Requests to other servers. -/
def httpCalls : LineRule where
  code := "http_calls"
  category := .policy
  severity := .error
  dialects := [.blade]
  groups := alone
    [(seq (notAfter fun c => isWord c || c == '\\') (lit "Http::"),
        "HTTP client usage in view." ++ moveRequests),
      (lit "\\Http::", "HTTP facade usage in view." ++ moveRequests),
      (seq edge (lit "curl_"), "cURL function usage in view." ++ moveRequests),
      (seq edge (lit "file_get_contents("),
        "file_get_contents for HTTP in view." ++ moveRequests)]

/-- Calls that a tag replaces. -/
def preferStatamicTags : LineRule where
  code := "prefer_statamic_tags"
  category := .policy
  severity := .warning
  dialects := [.blade]
  groups := alone
    (preferredTags.map fun p => (lit p.1, "Use " ++ p.2 ++ " instead of " ++ p.1))

/-- Any characters up to a line end. -/
def anything : Pattern := many 0 (· != '\n')

/-- The rest of the attributes of an element and its end. -/
def toElementEnd : Pattern := seq (many 0 (· != '>')) (lit ">")

/-- The digit of a heading. -/
def isHeadingDigit (c : Char) : Bool := among "123456" c

/-- Markup that a component could hold. -/
def suggestComponent : LineRule where
  code := "suggest_component"
  category := .maintainability
  severity := .warning
  dialects := [.blade]
  groups := alone
    [(chain
        [lit "<article", toElementEnd, anything, lit "<h", one isHeadingDigit, toElementEnd,
          anything, lit "</h", one isHeadingDigit, lit ">", anything, lit "</article>"],
        "Consider creating an entry-card component for this article pattern"),
      (chain
        [lit "<img", many 0 (· != '>'), lit "src=\"", many 0 (· != '"'), lit "glide",
          many 0 (· != '"'), lit "\""],
        "Consider creating a responsive-image component for Glide images")]

/-- A rule if a flag is set. -/
def onlyIf (flag : Bool) (rule : LineRule) : List LineRule := if flag then [rule] else []

/-- The rules that a policy asks for. -/
def ofPolicy (p : Policy) : List LineRule :=
  onlyIf p.forbidInlineCode inlinePhp ++
    onlyIf (!p.forbiddenAccessors.isEmpty) (facadeCall p.forbiddenAccessors) ++
    onlyIf p.forbidModelsInView modelsInView ++
    [databaseCalls, httpCalls] ++
    onlyIf p.preferTags preferStatamicTags ++
    onlyIf p.preferComponents suggestComponent

end PolicyRules

end TemplateLint
