import TemplateLint.Format.Result

/-!
# Notices

One line for every finding or suggestion, as a build server reads it.  A message is escaped so that it
stays on its line and can be read back: the percent sign first, then the two line ends.
-/
namespace TemplateLint
namespace Notice

/-- A text with every occurrence of a character written as an escape. -/
def escapeChar (wanted : Char) (code : Text) (text : Text) : Text :=
  text.flatMap fun c => if c = wanted then code else [c]

/-- A message that stays on its line. -/
def escape (message : Text) : Text :=
  escapeChar '\n' "%0A" (escapeChar '\r' "%0D" (escapeChar '%' "%25" message))

/-- The level of a notice. -/
def level : Severity → Text
  | .critical | .error => "error"
  | .warning => "warning"
  | .info => "notice"

/-- The column of a finding, if it has one. -/
def columnPart (column : Option Int) : Text :=
  match column.filter (· ≠ 0) with
  | some n => ",col=" ++ Text.ofInt n
  | none => []

/-- The notice of a finding. -/
def ofFinding (path : Text) (f : Finding) : Text :=
  "::" ++ level f.severity ++ " file=" ++ path ++ ",line=" ++ Text.ofInt f.line ++
    columnPart f.column ++ "::" ++ escape ("[" ++ f.rule ++ "] " ++ f.message)

/-- The line of a suggestion; zero counts as none. -/
def lineOr (other : Int) (s : Suggestion) : Int := (s.line.filter (· ≠ 0)).getD other

/-- The notice of a suggestion. -/
def ofSuggestion (source : Option Text) (s : Suggestion) : Text :=
  "::notice file=" ++ shownPath [s.template, source] ++ ",line=" ++ Text.ofInt (lineOr 1 s) ++
    "::" ++ escape (s.title ++ " (" ++ s.rule ++ ")")

/-- The notices of a result. -/
def ofResult (source : Option Text) (r : AnyResult) : List Text :=
  match r with
  | .plan p => p.suggestions.map (ofSuggestion source)
  | r => (r.located source).map fun entry => ofFinding entry.1 entry.2

end Notice

namespace Location

/-- The place of a finding with its rule. -/
def ofFinding (path : Text) (f : Finding) : Text :=
  path ++ ":" ++ Text.ofInt f.line ++ ":" ++ f.rule

/-- The place of a suggestion with its rule. -/
def ofSuggestion (source : Option Text) (s : Suggestion) : Text :=
  shownPath [s.template, source] ++ ":" ++ Text.ofInt (Notice.lineOr 0 s) ++ ":" ++ s.rule

/-- The places of a result. -/
def ofResult (source : Option Text) (r : AnyResult) : List Text :=
  match r with
  | .plan p => p.suggestions.map (ofSuggestion source)
  | r => (r.located source).map fun entry => ofFinding entry.1 entry.2

end Location

end TemplateLint
