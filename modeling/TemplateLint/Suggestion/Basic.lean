import TemplateLint.Suggestion.Advice

/-!
# Suggestions

A suggestion is the advice on one finding.  Findings whose suggestions have the same identifier are
merged: the first one gives the fields, and each counts as an occurrence.  The identifier is made
with a digest function, so it depends on the rule, the template and, for some rules, the snippet.
-/
namespace TemplateLint

/-- The advice on some findings. -/
structure Suggestion where
  id : Text
  rule : Text
  title : Text
  description : Text
  category : Category
  impact : Level
  effort : Level
  template : Option Text := none
  line : Option Int := none
  before : Option Text := none
  after : Option Text := none
  explanation : Option Text := none
  savedMs : Int := 0
  occurrences : Int := 1
deriving DecidableEq

namespace Suggestion

/-- The rank of a suggestion: its impact times the ease of following it. -/
def rank (s : Suggestion) : Nat := s.impact.impactWeight * s.effort.effortWeight

/-- Little effort with more than little impact. -/
def isQuickWin (s : Suggestion) : Bool := s.effort == .low && s.impact != .low

/-- The character that separates the parts of what is digested. -/
def separator : Char := Char.ofNat 0

/-- The identifier of a suggestion. -/
def identifier (digest : Text → Text) (rule key : Text) (template : Option Text) : Text :=
  rule ++ '_' :: (digest (key ++ separator :: template.getD [])).take 12

/-- What tells the snippets of one rule apart: the evidence, or the line if there is none. -/
def snippetKey (f : Finding) : Text :=
  match f.evidence with
  | none => Text.ofInt f.line
  | some evidence => if evidence.isEmpty then Text.ofInt f.line else evidence

/-- What tells the suggestions of one template apart. -/
def keyOf (advice : Advice) (f : Finding) : Text :=
  if advice.perSnippet then f.rule ++ separator :: snippetKey f else f.rule

/-- The suggestion that follows an advice on a finding. -/
def ofAdvice (digest : Text → Text) (examples : Bool) (f : Finding) (advice : Advice) :
    Suggestion where
  id := identifier digest f.rule (keyOf advice f) f.template
  rule := f.rule
  title := advice.title
  description := f.message
  category := advice.category
  impact := advice.impact
  effort := advice.effort
  template := f.template
  line := some f.line
  before := if examples then advice.before else none
  after := if examples then advice.after else none
  explanation := if examples then advice.explanation else none
  savedMs := advice.savedMs

/-- The suggestion for a finding, if there is advice on its rule. -/
def ofFinding? (digest : Text → Text) (examples : Bool) (f : Finding) : Option Suggestion :=
  (Advice.ofRule? f.rule).map (ofAdvice digest examples f)

/-- Merges a suggestion into those that were seen before. -/
def merge (s : Suggestion) : List Suggestion → List Suggestion
  | [] => [s]
  | t :: rest =>
    if t.id = s.id then { t with occurrences := t.occurrences + 1 } :: rest else t :: merge s rest

/-- The suggestions for some findings, in the order in which they came first. -/
def ofFindings (digest : Text → Text) (examples : Bool) (findings : List Finding) :
    List Suggestion :=
  (findings.filterMap (ofFinding? digest examples)).foldl (fun seen s => merge s seen) []

/-- The suggestions by rank, the highest first; equal ranks keep their order. -/
def sortByRank (suggestions : List Suggestion) : List Suggestion :=
  suggestions.mergeSort fun a b => b.rank ≤ a.rank

/-- The first suggestions up to a limit; a negative limit leaves out that many at the end. -/
def upTo (limit : Option Int) (suggestions : List Suggestion) : List Suggestion :=
  match limit with
  | none => suggestions
  | some (.ofNat n) => suggestions.take n
  | some (.negSucc n) => suggestions.take (suggestions.length - (n + 1))

/-- The limit that a value sets; null sets none, and only an integer is a place to cut at. -/
def limitOf : Value → Except Fault (Option Int)
  | .null => .ok none
  | .flag b => .ok (some (if b then 1 else 0))
  | .number (.int n) => .ok (some n)
  | _ => .error .notABound

/-- The suggestions by rank up to a limit. -/
def ranked (limit : Option Int) (suggestions : List Suggestion) : List Suggestion :=
  upTo limit (sortByRank suggestions)

end Suggestion

end TemplateLint
