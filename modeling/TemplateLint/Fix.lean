import TemplateLint.Rule.PolicyRules

/-!
# Fixes

What could be written instead of what a finding points at.  A fix only describes the change: it either
gives a replacement for a stretch of the line or names alternatives.
-/
namespace TemplateLint

open Pattern

/-- A change that settles a finding. -/
inductive Fix where
  /-- A stretch of the line with what to write instead. -/
  | replacement (rule : Text) (line : Int) (description found written : Text)
  /-- Ways to do without. -/
  | alternatives (rule : Text) (line : Int) (description : Text) (ways : Entries Text)
deriving DecidableEq

namespace Fix

/-- A stretch that can be replaced, with how and why. -/
structure Replacer where
  pattern : Pattern
  write : Text → Text
  description : Text

/-- An argument list of one quoted argument. -/
def quotedArgument : Pattern :=
  chain
    [lit "(", blanks, one (among "'\""), group 1 (many 1 (except "'\"")), one (among "'\""), blanks,
      lit ")"]

/-- The quoted argument in a text; empty if there is none. -/
def argumentOf (text : Text) : Text :=
  match quotedArgument.find? text with
  | some m => m.group 1
  | none => []

/-- The tag for the entries of a collection. -/
def entriesTag (text : Text) : Text :=
  "<x-statamic:entries :from=\"'" ++ argumentOf text ++ "'\">"

/-- The tag for a collection. -/
def collectionTag (text : Text) : Text :=
  "<x-statamic:collection handle=\"" ++ argumentOf text ++ "\">"

/-- The tag for the terms of a taxonomy. -/
def taxonomyTag (text : Text) : Text :=
  "<x-statamic:taxonomy :from=\"'" ++ argumentOf text ++ "'\">"

/-- The element with an empty alternative text before its end. -/
def addEmptyAlt (text : Text) : Text :=
  if (String.toList "/>").isSuffixOf text then
    Text.stripRight (text.take (text.length - 2)) ++ " alt=\"\" />"
  else Text.stripRight text.dropLast ++ " alt=\"\">"

/-- A call with one quoted argument, with or without the namespace of facades. -/
def facadeCall (call : Text) : Pattern :=
  chain
    [maybe (chain [maybe (lit "\\"), lit "Statamic\\Facades\\"]), lit call, lit "(", blanks,
      one (among "'\""), many 1 (except "'\""), one (among "'\""), blanks, lit ")"]

/-- The replacers of accessor calls. -/
def accessorReplacers : List Replacer :=
  [⟨facadeCall "Entry::whereCollection", entriesTag,
      "Replace facade call with Statamic component"⟩,
    ⟨facadeCall "Collection::findByHandle", collectionTag,
      "Replace facade call with Statamic component"⟩,
    ⟨facadeCall "Taxonomy::findByHandle", taxonomyTag,
      "Replace facade call with Statamic component"⟩]

/-- An image without an alternative text. -/
def imageWithoutAlt : Pattern :=
  chain
    [caselessLit "<img", notAhead (chain [many 0 (· != '>'), edge, caselessLit "alt="]),
      many 0 (· != '>'), lit ">"]

/-- The replacer of images. -/
def imageReplacer : Replacer :=
  ⟨imageWithoutAlt, addEmptyAlt, "Add alt attribute for accessibility"⟩

/-- The replacers for the findings of a rule, the first to be tried first. -/
def replacers (rule : Text) : List Replacer :=
  if rule = String.toList "facade_call" ∨ rule = String.toList "prefer_statamic_tags" then
    accessorReplacers
  else if rule = String.toList "missing_alt_text" then [imageReplacer]
  else []

/-- The alternatives for the findings of a rule, with their description. -/
def waysTable : List (Text × Text × Entries Text) :=
  [("inline_php", "Move PHP logic to a controller or create a Blade component",
      [("Controller", "Move data fetching to the controller and pass it to the view"),
        ("View Composer", "Use a view composer for complex view logic"),
        ("Component", "Create a Blade component with computed properties")]),
    ("models_in_view", "Move model queries to a controller or service layer",
      [("Controller", "Fetch data in the controller method"),
        ("View Composer", "Use a view composer for view-specific data"),
        ("Repository", "Create a repository for data access")]),
    ("database_calls", "Move database access out of the template",
      [("Controller", "Run the query in the controller and pass the result to the view"),
        ("Service", "Wrap the query in a service class")]),
    ("http_calls", "Move HTTP requests out of the template",
      [("Controller", "Fetch remote data in the controller"),
        ("Cached service", "Fetch in a service and cache the response")]),
    ("facade_call", "Replace facade call with an appropriate Statamic component",
      [("Entry queries", "<x-statamic:entries :from=\"collection_name\">"),
        ("Collection data", "<x-statamic:collection handle=\"collection_name\">"),
        ("Taxonomy terms", "<x-statamic:taxonomy :from=\"taxonomy_name\">")])]

/-- The replacement by one replacer, if its pattern matches in the line. -/
def replacementBy? (f : Finding) (line : Text) (r : Replacer) : Option Fix :=
  (r.pattern.find? line).map fun m =>
    replacement f.rule f.line r.description m.text (r.write m.text)

/-- The alternatives for a finding. -/
def alternativesFor? (f : Finding) (line : Text) : Option Fix :=
  (waysTable.lookup f.rule).map fun entry =>
    alternatives f.rule f.line entry.1
      (match PolicyRules.preferredTagFor? line with
        | some tag => Entries.put "Preferred tag" tag entry.2
        | none => entry.2)

/-- The fix for a finding in its line. -/
def ofFinding? (f : Finding) (line : Text) : Option Fix :=
  ((replacers f.rule).findSome? (replacementBy? f line)).or (alternativesFor? f line)

/-- The line with a number. -/
def lineAt? (lines : List Text) (number : Int) : Option Text :=
  if 1 ≤ number then lines[(number - 1).toNat]? else none

/-- The fixes for some findings, one for every rule and line; `seen` holds those that have one. -/
def collect (lines : List Text) : List (Text × Int) → List Finding → List Fix
  | _, [] => []
  | seen, f :: rest =>
    if (f.rule, f.line) ∈ seen then collect lines seen rest
    else
      match (lineAt? lines f.line).bind (ofFinding? f) with
      | some fix => fix :: collect lines ((f.rule, f.line) :: seen) rest
      | none => collect lines seen rest

/-- The fixes for the findings about a text. -/
def ofFindings (text : Text) (findings : List Finding) : List Fix :=
  collect text.lines [] findings

end Fix

end TemplateLint
