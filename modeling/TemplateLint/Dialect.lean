import TemplateLint.Failure
import TemplateLint.Text.Lowercase
import TemplateLint.Text.Search

/-!
# Dialects

The two template dialects, the structure that is counted in each, and the choice of a dialect for a
template: a given type wins, then a known suffix of the path, then the votes of the text.
-/
namespace TemplateLint

/-- The language a template is written in. -/
inductive Dialect where
  /-- Directives such as `@if` between the lines of markup. -/
  | blade
  /-- Tags between double braces. -/
  | antlers
  /-- Neither could be recognised. -/
  | unknown
deriving DecidableEq

namespace Dialect

/-- The name of a dialect. -/
def name : Dialect → Text
  | blade => "blade"
  | antlers => "antlers"
  | unknown => "unknown"

/-- Every dialect. -/
def all : List Dialect := [.blade, .antlers, .unknown]

end Dialect

/-- The two braces that open a tag. -/
def openBraces : Text := "\x7b\x7b"

/-- The two braces that close a tag. -/
def closeBraces : Text := "\x7d\x7d"

open Pattern

/-- What is counted in the templates of a dialect. -/
structure DialectStructure where
  tag : Pattern
  conditional : Pattern
  loop : Pattern
  inclusion : Pattern

namespace Dialect

/-- A directive with one of the given names and an opening parenthesis. -/
def directiveCall (names : List Text) : Pattern :=
  chain [lit "@", oneOf (names.map lit), blanks, lit "("]

/-- The beginning of a tag up to its first word. -/
def tagStart : Pattern := seq (lit openBraces) blanks

/-- What is counted in directive templates. -/
def bladeStructure : DialectStructure where
  tag := seq (lit "@") (many 1 isWord)
  conditional := directiveCall ["if", "unless"]
  loop := directiveCall ["foreach", "forelse", "for", "while"]
  inclusion :=
    chain [lit "@include", maybe (oneOf [lit "If", lit "When", lit "Unless", lit "First"]), blanks,
      lit "("]

/-- What is counted in tag templates. -/
def antlersStructure : DialectStructure where
  tag := chain [lit openBraces, upTo closeBraces id, lit closeBraces]
  conditional := chain [tagStart, oneOf [lit "if", lit "unless"], many 1 isBlank]
  loop := seq tagStart (oneOf [lit "collection:", lit "taxonomy:", seq (lit "foreach") edge])
  inclusion := seq tagStart (lit "partial:")

/-- What is counted in the templates of a dialect. -/
def structure? : Dialect → Option DialectStructure
  | blade => some bladeStructure
  | antlers => some antlersStructure
  | unknown => none

/-- A small letter, whatever its case in the text. -/
def anyLetter (c : Char) : Bool := (caseless c).isLower

/-- The directives that vote for their dialect. -/
def votingDirectives : List Text :=
  ["if", "unless", "foreach", "forelse", "for", "while", "include", "extends", "section", "yield",
    "php", "csrf", "auth", "isset", "empty", "switch", "push", "stack", "component"]

/-- One vote for the directive dialect. -/
def bladeVote : Pattern :=
  oneOf
    [chain [lit "@", oneOf (votingDirectives.map caselessLit), edge],
      lit "\x7b!!",
      seq tagStart (lit "$"),
      caselessLit "<?php",
      seq (caselessLit "<x-") (one anyLetter)]

/-- One vote for the tag dialect. -/
def antlersVote : Pattern :=
  oneOf
    [chain
      [tagStart, maybe (lit "/"), one (fun c => anyLetter c || c == '_'), many 0 isWord,
        maybe (seq (lit ":") (many 1 isWord)),
        oneOf
          [chain [many 1 isBlank, many 1 (fun c => isWord c || c == ':'), lit "=\""],
            seq blanks (lit closeBraces),
            seq blanks (lit "|")]],
      chain [tagStart, lit "/", one (fun c => anyLetter c || c == '_')],
      chain
        [tagStart, oneOf [caselessLit "if", caselessLit "unless", caselessLit "elseif"],
          many 1 isBlank, one (except "$\x7d(")]]

/-- The dialect that a template type names; none if the type asks for recognition. -/
def ofType (type : Option Text) : Except Failure (Option Dialect) :=
  match type with
  | none => .ok none
  | some given =>
    let word := lowercase given.strip
    if word = "auto" ∨ word = "auto-detect" then .ok none
    else if word = "blade" then .ok (some .blade)
    else if word = "antlers" then .ok (some .antlers)
    else .error (.unknownTemplateType given)

/-- The suffixes of tag templates. -/
def antlersSuffixes : List Text := [".antlers.html", ".antlers.php"]

/-- The suffixes of directive templates. -/
def bladeSuffixes : List Text := [".blade.php"]

/-- The dialect that the suffix of a path tells. -/
def ofPath? (path : Text) : Option Dialect :=
  let path := lowercase path
  if antlersSuffixes.any (·.isSuffixOf path) then some .antlers
  else if bladeSuffixes.any (·.isSuffixOf path) then some .blade
  else none

/-- The dialect with more votes in the text; a tie goes to tags, no vote at all to neither. -/
def ofText (text : Text) : Dialect :=
  let tags := antlersVote.countIn text
  let directives := bladeVote.countIn text
  if tags = 0 ∧ directives = 0 then .unknown
  else if directives ≤ tags then .antlers
  else .blade

/-- The dialect of a template. -/
def classify (path : Option Text) (text : Text) (type : Option Text) : Except Failure Dialect := do
  match ← ofType type with
  | some forced => pure forced
  | none =>
    match path.bind ofPath? with
    | some told => pure told
    | none => pure (ofText text)

end Dialect

end TemplateLint
