import TemplateLint.Format.Result

/-!
# Results on a terminal

A result is shown as a panel, tables and lines of markup.  Text that comes from templates is escaped
so that it is not taken for markup.
-/
namespace TemplateLint

/-- A column of a table. -/
structure Column where
  header : Text
  justify : Text := "left"
  overflow : Text := "ellipsis"
  style : Text := []
deriving DecidableEq

/-- Something shown on a terminal. -/
inductive Display where
  | line (markup : Text)
  | panel (text title : Text)
  | table (columns : List Column) (rows : List (List Text))
deriving DecidableEq

namespace Markup

open Pattern

/-- What would be taken for a tag, with the backslashes in front of it. -/
def tag : Pattern :=
  seq (group 1 (many 0 (· == '\\')))
    (group 2
      (chain
        [lit "[", one (fun c => c.isLower || among "#/@" c), few 0 (except "["), lit "]"]))

/-- The backslashes doubled and one more in front of the tag. -/
def disarm (m : Match) : Text := m.group 1 ++ m.group 1 ++ '\\' :: m.group 2

/-- A text that is shown as it is. -/
def escape (text : Text) : Text :=
  let escaped := tag.replaceAll disarm text
  match escaped.reverse with
  | '\\' :: '\\' :: _ => escaped
  | '\\' :: _ => escaped ++ ['\\']
  | _ => escaped

/-- A text in a style. -/
def styled (style text : Text) : Text := "[" ++ style ++ "]" ++ text ++ "[/" ++ style ++ "]"

end Markup

namespace Terminal

open Markup

/-- The style of a severity. -/
def severityStyle : Severity → Text
  | .critical => "red bold"
  | .error => "red"
  | .warning => "yellow"
  | .info => "cyan"

/-- The style of a standing. -/
def standingStyle : Standing → Text
  | .excellent | .good => "green"
  | .needsImprovement => "yellow"
  | .poor => "red"

/-- A value that may be missing. -/
def orNone : Option Text → Text
  | some text => text
  | none => "None"

/-- A line number that may be missing. -/
def lineText (line : Option Int) : Text := orNone (line.map Text.ofInt)

/-- A table of findings. -/
def findingsTable (rows : List (Text × Finding)) (showPath : Bool) : Display :=
  let columns : List Column :=
    [{ header := "Line", justify := "right" }, { header := "Severity" },
      { header := "Rule", style := "bold" }, { header := "Message" }]
  let cells (f : Finding) : List Text :=
    [Text.ofInt f.line, styled (severityStyle f.severity) f.severity.name, f.rule,
      escape f.message]
  if showPath then
    .table ({ header := "Template", overflow := "fold" } :: columns)
      (rows.map fun r => escape r.1 :: cells r.2)
  else .table columns (rows.map fun r => cells r.2)

/-- Displays that are shown only if there is something to show. -/
def whenAny {α : Type} (values : List α) (displays : List Display) : List Display :=
  if values.isEmpty then [] else displays

/-- A line for a fix. -/
def fixLine : Fix → Display
  | .replacement _ line _ found written =>
    .line
      ("  line " ++ Text.ofInt line ++ ": " ++ styled "red" (escape found) ++ " -> " ++
        styled "green" (escape written))
  | .alternatives _ line description _ =>
    .line ("  line " ++ Text.ofInt line ++ ": " ++ escape description)

/-- The lines about the performance of a text. -/
def performanceLines (p : PerformanceSummary) : List Display :=
  .line [] ::
    .line
      ("[bold]Complexity:[/bold] " ++ p.metrics.score.toText ++
        "  [bold]Estimated render:[/bold] ~" ++ p.renderTime.toText ++ "ms") ::
    p.metrics.factors.map fun factor => .line ("  [dim]- " ++ escape factor ++ "[/dim]")

/-- The displays of a lint result. -/
def ofLint (source : Option Text) (r : LintResult) : List Display :=
  let f := r.findings
  let status : Text := if f.ok then "[green]OK[/green]" else "[red]FAILED[/red]"
  let panel :=
    Display.panel
      (status ++ "  dialect: [bold]" ++ f.dialect.name ++ "[/bold]  lines: " ++
        Text.ofNat f.linesAnalyzed ++ "  violations: " ++ Text.ofNat f.violations.length ++
        "  warnings: " ++ Text.ofNat f.warnings.length)
      (styled "bold cyan"
        (escape ((source.filter (!·.isEmpty)).getD "viewlint")))
  let rows := AnyResult.located source (.lint r)
  let fixes := r.fixes.getD []
  panel :: whenAny rows [findingsTable rows false] ++
    whenAny fixes (.line [] :: .line "[bold]Fixes:[/bold]" :: fixes.map fixLine) ++
    (match r.performance with
      | some p => performanceLines p
      | none => []) ++
    (r.edgeCases.getD []).map fun c =>
      .line
        ("[yellow]edge case[/yellow] " ++ c.kind ++ " (line " ++ lineText c.line ++ "): " ++
          escape c.message)

/-- A line for an opportunity. -/
def opportunityLine (f : Finding) : Display :=
  .line
    ("  [cyan]" ++ f.rule ++ "[/cyan] " ++ escape (orNone f.template) ++ ":" ++
      Text.ofInt f.line ++ " " ++ escape f.message)

/-- A line for an edge case of a template. -/
def edgeCaseLine (path : Text) (c : EdgeCase) : Display :=
  .line
    ("[yellow]edge case[/yellow] " ++ escape path ++ ":" ++ lineText c.line ++ " " ++ c.kind ++
      ": " ++ escape c.message)

/-- The displays of a report. -/
def ofReport (source : Option Text) (a : AnalysisResult) : List Display :=
  let r := a.report
  let panel :=
    Display.panel
      ("score: " ++ styled (standingStyle r.standing) (Text.ofInt r.score) ++ " (" ++
        r.standing.name ++ ")  templates: " ++ Text.ofNat r.templatesAnalyzed ++ "  issues: " ++
        Text.ofNat r.totalIssues ++ "  critical: " ++ Text.ofNat r.criticalIssues ++
        "  render: ~" ++ r.renderTimeText)
      "[bold cyan]Performance[/bold cyan]"
  let rows := AnyResult.located source (.analysis a)
  let opportunities := r.caching ++ r.optimizations
  panel :: whenAny rows [findingsTable rows true] ++
    whenAny opportunities
      (.line [] :: .line "[bold]Opportunities:[/bold]" :: opportunities.map opportunityLine) ++
    r.edgeCases.flatMap (fun e => e.2.map (edgeCaseLine e.1)) ++
    r.skipped.map (fun f =>
      .line ("[dim]skipped " ++ escape f.path ++ ": " ++ escape f.reason ++ "[/dim]")) ++
    whenAny r.recommendations
      (.line [] :: .line "[bold]Recommendations:[/bold]" ::
        r.recommendations.map fun text => .line ("  - " ++ text))

/-- Where a suggestion applies. -/
def placeOf (s : Suggestion) : Text :=
  match s.line.filter (· ≠ 0) with
  | some line => orNone s.template ++ ":" ++ Text.ofInt line
  | none => s.template.getD []

/-- The rows of a table of suggestions, the first of which has the given number. -/
def suggestionRows : Nat → List Suggestion → List (List Text)
  | _, [] => []
  | number, s :: rest =>
    [Text.ofNat number, escape s.title, s.impact.name, s.effort.name, escape (placeOf s),
      Text.ofInt s.occurrences] :: suggestionRows (number + 1) rest

/-- A table of suggestions. -/
def suggestionsTable (suggestions : List Suggestion) : Display :=
  .table
    [{ header := "#", justify := "right" }, { header := "Suggestion", style := "bold" },
      { header := "Impact" }, { header := "Effort" }, { header := "Where", overflow := "fold" },
      { header := "x", justify := "right" }]
    (suggestionRows 1 suggestions)

/-- The lines for a phase of a roadmap. -/
def phaseLines (label : Text) (titles : List Text) : List Display :=
  whenAny titles
    (.line (styled "bold" (label ++ ":")) ::
      titles.map fun title => .line ("  - " ++ escape title))

/-- The displays of a plan. -/
def ofPlan (p : Plan) : List Display :=
  let s := p.statistics
  let panel :=
    Display.panel
      ("suggestions: " ++ Text.ofNat s.total ++ "  high impact: " ++ Text.ofNat s.highImpact ++
        "  quick wins: " ++ Text.ofNat s.quickWins ++ "  potential: " ++ s.potential.name)
      ("[bold cyan]Optimizations (" ++ p.focus.name ++ ")[/bold cyan]")
  panel :: whenAny p.suggestions [suggestionsTable p.suggestions] ++
    phaseLines "Immediate" p.roadmap.immediate ++ phaseLines "Short term" p.roadmap.shortTerm ++
    phaseLines "Long term" p.roadmap.longTerm

/-- The displays of a result. -/
def ofResult (source : Option Text) : AnyResult → List Display
  | .lint r => ofLint source r
  | .analysis r => ofReport source r
  | .plan p => ofPlan p

end Terminal

end TemplateLint
