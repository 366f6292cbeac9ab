import TemplateLint.Halt
import TemplateLint.Report
import TemplateLint.Suggestion.Basic

/-!
# Plans

A plan shows the suggestions of a focus with a roadmap.  Its statistics and categories cover every
suggestion of the focus; the list and the roadmap cover those that are shown.
-/
namespace TemplateLint

/-- What a plan is about. -/
inductive Focus where
  | performance
  | maintainability
  | security
  | all
deriving DecidableEq

namespace Focus

/-- The name of a focus. -/
def name : Focus → Text
  | performance => "performance"
  | maintainability => "maintainability"
  | security => "security"
  | all => "all"

/-- The categories of a focus. -/
def categories : Focus → List Category
  | performance => [.performance]
  | maintainability => [.maintainability, .policy]
  | security => [.security]
  | all => Category.all

/-- The focus of a name. -/
def ofName? (name : Text) : Option Focus :=
  [performance, maintainability, security, all].find? fun f => name = f.name

/-- The focus that a value names.  A list or a table is not even a key to look it up by. -/
def ofValue (given : Value) : Except Halt Focus :=
  match given.keyFault? with
  | some fault => .error (.fault fault)
  | none =>
    match given.toText?.bind ofName? with
    | some focus => .ok focus
    | none => do
      let _ ← given.written
      .error (.failure (.unknownFocus given))

end Focus

/-- When a suggestion should be followed. -/
inductive Phase where
  | immediate
  | shortTerm
  | longTerm
deriving DecidableEq

/-- The phase of a suggestion. -/
def Suggestion.phase (s : Suggestion) : Phase :=
  match s.impact, s.effort with
  | .high, .low => .immediate
  | .high, .medium => .shortTerm
  | .medium, .low => .shortTerm
  | _, _ => .longTerm

/-- The titles of the suggestions of each phase. -/
structure Roadmap where
  immediate : List Text
  shortTerm : List Text
  longTerm : List Text
deriving DecidableEq

namespace Roadmap

/-- The number of titles in a phase. -/
def defaultLimit : Number := 5

/-- The first titles of a phase: one is added while there are fewer than the limit. -/
def titles (limit : Number) (suggestions : List Suggestion) (phase : Phase) : List Text :=
  let chosen := (suggestions.filter fun s => s.phase = phase).map (·.title)
  (chosen.zipIdx.filter fun title => (Number.int title.2).lt limit).map (·.1)

/-- The roadmap of some suggestions. -/
def ofSuggestions (limit : Number) (suggestions : List Suggestion) : Roadmap where
  immediate := titles limit suggestions .immediate
  shortTerm := titles limit suggestions .shortTerm
  longTerm := titles limit suggestions .longTerm

end Roadmap

/-- What could be gained at all. -/
inductive Potential where
  | high
  | medium
  | low
  | minimal
deriving DecidableEq

namespace Potential

/-- The name of a potential. -/
def name : Potential → Text
  | high => "high"
  | medium => "medium"
  | low => "low"
  | minimal => "minimal"

/-- The potential of some counts. -/
def ofCounts (highImpact quickWins total : Nat) : Potential :=
  if 3 ≤ highImpact then high
  else if 5 ≤ quickWins then medium
  else if 10 ≤ total then low
  else minimal

end Potential

/-- Counts over some suggestions. -/
structure SuggestionStatistics where
  total : Nat
  highImpact : Nat
  quickWins : Nat
  savedMs : Int
  potential : Potential
  topCategories : List Text
deriving DecidableEq

namespace SuggestionStatistics

/-- The time that all occurrences of some suggestions save. -/
def totalSaved : List Suggestion → Int
  | [] => 0
  | s :: rest => s.savedMs * s.occurrences + totalSaved rest

/-- The counts over some suggestions. -/
def ofSuggestions (suggestions : List Suggestion) : SuggestionStatistics :=
  let highImpact := suggestions.countP (·.impact == .high)
  let quickWins := suggestions.countP (·.isQuickWin)
  { total := suggestions.length
    highImpact := highImpact
    quickWins := quickWins
    savedMs := totalSaved suggestions
    potential := Potential.ofCounts highImpact quickWins suggestions.length
    topCategories := mostFrequent 3 (tally (suggestions.map (·.category.name))) }

end SuggestionStatistics

/-- The suggestions of each category, in the order in which the categories came first. -/
def categorize (suggestions : List Suggestion) : Entries (List Suggestion) :=
  suggestions.foldl
    (fun found s => found.update s.category.name fun old => old.getD [] ++ [s]) []

/-- Suggestions of a focus with a roadmap. -/
structure Plan where
  templatesAnalyzed : Int
  focus : Focus
  suggestions : List Suggestion
  categories : Entries (List Suggestion)
  roadmap : Roadmap
  statistics : SuggestionStatistics
  skipped : List SkippedFile
deriving DecidableEq

/-- How a plan is made. -/
structure PlanOptions where
  focus : Focus := .all
  examples : Bool := true
  prioritize : Bool := true
  limit : Option Int := some 20
deriving DecidableEq

namespace Plan

/-- The suggestions that a plan shows. -/
def shown (o : PlanOptions) (selected : List Suggestion) : List Suggestion :=
  if o.prioritize then Suggestion.ranked o.limit selected else Suggestion.upTo o.limit selected

/-- The plan for some findings. -/
def ofFindings (digest : Text → Text) (o : PlanOptions) (templatesAnalyzed : Int)
    (skipped : List SkippedFile) (findings : List Finding) : Plan :=
  let generated := Suggestion.ofFindings digest o.examples findings
  let selected := generated.filter fun s => s.category ∈ o.focus.categories
  let shown := shown o selected
  { templatesAnalyzed := templatesAnalyzed
    focus := o.focus
    suggestions := shown
    categories := categorize selected
    roadmap := Roadmap.ofSuggestions Roadmap.defaultLimit shown
    statistics := SuggestionStatistics.ofSuggestions selected
    skipped := skipped }

end Plan

end TemplateLint
