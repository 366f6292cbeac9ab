import TemplateLint.Text.Letters
import TemplateLint.Value

/-!
# Policies

What the rules treat as a violation: which accessors are forbidden, which groups of rules run, and
which namespaces and modifiers are known.  A known name stays the value that was given, because only
the search for a similar one shows whether it is a text.
-/
namespace TemplateLint

/-- What the rules treat as a violation. -/
structure Policy where
  /-- Services that a template must not call. -/
  forbiddenAccessors : List Text
  forbidInlineCode : Bool
  forbidModelsInView : Bool
  preferTags : Bool
  preferComponents : Bool
  checkAccessibility : Bool
  /-- The namespaces that a tag may have. -/
  knownNamespaces : List Value
  /-- The modifiers that a tag may have in strict mode. -/
  knownModifiers : List Value
deriving DecidableEq

namespace Policy

/-- The accessors that are forbidden by default. -/
def defaultAccessors : List Text := ["Statamic", "DB", "Http", "Cache", "Storage"]

/-- The namespaces that are known by default. -/
def defaultNamespaces : List Text :=
  ["collection", "taxonomy", "nav", "form", "glide", "partial", "section", "yield", "site",
    "config", "env", "cache", "asset", "assets", "user", "users", "search", "session", "structure",
    "svg", "link", "path", "trans", "locales", "get_content", "get_files", "redirect", "scope",
    "vite", "mix"]

/-- The modifiers that are known by default. -/
def defaultModifiers : List Text :=
  List.map String.toList
    ["upper", "lower", "title", "sentence", "slug", "studly", "camel", "length", "word_count",
      "read_time", "strip_tags", "markdown", "textile", "smartypants", "widont", "format", "relative",
      "iso_format", "modify", "add", "subtract", "multiply", "divide", "round", "ceil", "floor",
      "abs", "sort", "reverse", "shuffle", "limit", "offset", "unique", "pluck", "where", "where_not",
      "group_by", "collapse", "flatten", "contains", "starts_with", "ends_with", "matches", "split",
      "join", "replace", "regex_replace", "raw", "entities", "sanitize", "truncate", "safe_truncate",
      "nl2br", "trim", "first", "last", "count", "is_empty", "to_json", "json", "url", "ascii"]

/-- The policy that holds unless another is given. -/
def default : Policy where
  forbiddenAccessors := defaultAccessors
  forbidInlineCode := true
  forbidModelsInView := true
  preferTags := true
  preferComponents := true
  checkAccessibility := true
  knownNamespaces := defaultNamespaces
  knownModifiers := defaultModifiers

/-- A name that may be forbidden: letters, numerals and underscores, not underscores alone. -/
def isAccessorName (name : Text) : Bool :=
  let plain := name.filter (· != '_')
  !plain.isEmpty && plain.all isAlphanumeric

/-- A policy that may be used: every forbidden accessor is a name, and every known name is a text. -/
def accepted (p : Policy) : Bool :=
  p.forbiddenAccessors.all isAccessorName &&
    p.knownNamespaces.all (·.isText) && p.knownModifiers.all (·.isText)

end Policy

end TemplateLint
