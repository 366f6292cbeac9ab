import TemplateLint.Lint
import TemplateLint.Operation.Gather
import TemplateLint.Suggestion.Plan
import TemplateLint.Text.Digest

/-!
# Suggesting optimizations

The plan for all templates at a path.  It is made from what the analysis of each template finds and
from the findings of the rules that are not about performance.
-/
namespace TemplateLint

/-- How suggestions are made. -/
structure SuggestOptions where
  type : Option Text := some "auto"
  focus : Value := .text "all"
  examples : Bool := true
  prioritize : Bool := true
  limit : Value := 20
  settings : Settings := .default

/-- The categories of rule findings that suggestions are made from. -/
def suggestedCategories : List Category := [.security, .accessibility, .policy]

/-- The findings about a template that suggestions are made from. -/
def findingsOf (s : Settings) (source : TemplateSource) : Except Fault (List Finding) := do
  let a ← TemplateAnalysis.ofSource s.heuristics {} source
  let linter : Linter := ⟨s.policy, s.heuristics, false⟩
  let found ← linter.findings source.text source.dialect []
  let chosen := found.filter fun f => f.category ∈ suggestedCategories
  pure
    (a.issues ++ a.caching ++ a.optimizations ++
      chosen.map fun f => { f with template := some source.path })

/-- Refuses a limit below zero. -/
def checkLimit (limit : Value) : Except Halt Unit :=
  if limit = .null then .ok ()
  else
    match limit.toNumber? with
    | none => .error (.fault (.notComparable "<" limit.kind (Value.kind 0)))
    | some n =>
      if n.lt 0 then do
        let given ← limit.written
        .error (.failure (.refusedSetting "max_suggestions" given "must be non-negative"))
      else .ok ()

/-- Plans optimizations of the templates at a path or in a text. -/
def suggest (w : World) (o : SuggestOptions) (given : Text) : Except Fault (Outcome Plan) :=
  Outcome.ofRun do
    let focus ← Focus.ofValue o.focus
    let _ ← Dialect.ofType o.type
    checkLimit o.limit
    let c ← Collection.gather w o.settings.collect o.type given
    let findings ← c.sources.mapM fun source => findingsOf o.settings source
    let limit ← Suggestion.limitOf o.limit
    let plan :=
      Plan.ofFindings Text.digest ⟨focus, o.examples, o.prioritize, limit⟩ c.sources.length
        c.skipped findings.flatten
    pure (plan, noteFor c)

end TemplateLint
