import TemplateLint.Finding
import TemplateLint.Dialect

/-!
# Line rules

A line rule looks at one line at a time.  Its patterns come in groups, and each group contributes the
first match of its first pattern that matches.
-/
namespace TemplateLint

/-- A pattern with the message for its matches. -/
structure LinePattern where
  pattern : Pattern
  message : Text

/-- A match of a rule in a line. -/
structure LineMatch where
  start : Nat
  stop : Nat
  text : Text
  message : Text
deriving DecidableEq

/-- A rule for single lines. -/
structure LineRule where
  /-- The kind of the rule, as listings show it. -/
  kind : Text := "LineRule"
  code : Text
  category : Category
  severity : Severity
  dialects : List Dialect
  suggestion : Option Text := none
  /-- A line that this pattern matches is passed over. -/
  exempt : Option Pattern := none
  groups : List (List LinePattern)

namespace LineRule

/-- The two dialects that are recognised. -/
def markup : List Dialect := [.blade, .antlers]

/-- Groups of one pattern each. -/
def alone (patterns : List (Pattern × Text)) : List (List LinePattern) :=
  patterns.map fun p => [⟨p.1, p.2⟩]

/-- The match of a pattern in a line. -/
def matchOf? (line : Text) (p : LinePattern) : Option LineMatch :=
  (p.pattern.find? line).map fun m => ⟨m.start, m.stop, m.text, p.message⟩

/-- The line is passed over. -/
def passesOver (rule : LineRule) (line : Text) : Bool :=
  rule.exempt.any (·.occursIn line)

/-- The matches of a rule in a line. -/
def matchesIn (rule : LineRule) (line : Text) : List LineMatch :=
  if rule.passesOver line then []
  else rule.groups.filterMap fun group => group.findSome? (matchOf? line)

/-- The finding of a match. -/
def findingOf (rule : LineRule) (number : Nat) (m : LineMatch) : Finding where
  rule := rule.code
  category := rule.category
  severity := rule.severity
  line := number
  message := m.message
  column := some (m.start + 1)
  evidence := some m.text
  suggestion := rule.suggestion

/-- The findings of a rule in a line with its number. -/
def findingsIn (rule : LineRule) (number : Nat) (line : Text) : List Finding :=
  (rule.matchesIn line).map (rule.findingOf number)

end LineRule

end TemplateLint
