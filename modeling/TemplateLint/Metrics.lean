import TemplateLint.Dialect
import TemplateLint.Finding
import TemplateLint.Heuristics

/-!
# Metrics

What is counted in a template, the complexity score made of the counts, and an estimate of the time
it takes to render.  The estimate only ranks templates against each other; its weights are
heuristics.
-/
namespace TemplateLint

/-- The structure that a template is counted by. -/
structure Counts where
  lines : Nat
  tags : Nat
  conditionals : Nat
  loops : Nat
  inclusions : Nat
deriving DecidableEq

/-- How much of each structure there is, as the score and the factors take it. -/
structure Amounts where
  lines : Number
  tags : Number
  conditionals : Number
  loops : Number
  inclusions : Number
deriving DecidableEq

namespace Amounts

/-- The complexity score: lines up to a cap, and a weight for every tag, conditional and loop. -/
def score (a : Amounts) (h : Heuristics) : Except Fault Number := do
  let lines ← a.lines.divide h.scoreLineDivisor
  let tags ← a.tags.mul h.scoreTagWeight
  let sum ← (lines.min h.scoreLineCap).add tags
  let conditionals ← a.conditionals.mul h.scoreConditionalWeight
  let sum ← sum.add conditionals
  let loops ← a.loops.mul h.scoreLoopWeight
  sum.add loops

/-- A factor if its amount exceeds its threshold. -/
def factor (amount : Number) (threshold : Value) (label closing : Text) :
    Except Fault (List Text) := do
  if ← threshold.isBelow amount then pure [label ++ amount.toText ++ closing] else pure []

/-- The amounts that make a template complex. -/
def factors (a : Amounts) (h : Heuristics) : Except Fault (List Text) := do
  let tags ← factor a.tags h.factorTagCount "High tag count (" ")"
  let conditionals ← factor a.conditionals h.factorConditionalCount "Many conditionals (" ")"
  let loops ← factor a.loops h.factorLoopCount "Multiple loops (" ")"
  let lines ← factor a.lines h.factorLineCount "Long template (" " lines)"
  let inclusions ← factor a.inclusions h.factorIncludeCount "Many includes (" ")"
  pure (tags ++ conditionals ++ loops ++ lines ++ inclusions)

end Amounts

namespace Counts

/-- The counts of a template; only the lines of an unknown dialect are counted. -/
def ofText (dialect : Dialect) (text : Text) : Counts :=
  match dialect.structure? with
  | none => ⟨text.lineCount, 0, 0, 0, 0⟩
  | some s =>
    ⟨text.lineCount, s.tag.countIn text, s.conditional.countIn text, s.loop.countIn text,
      s.inclusion.countIn text⟩

/-- The counts as amounts. -/
def amounts (c : Counts) : Amounts where
  lines := .int c.lines
  tags := .int c.tags
  conditionals := .int c.conditionals
  loops := .int c.loops
  inclusions := .int c.inclusions

end Counts

/-- The counts of a template with its score, rounded to two places, and its factors. -/
structure Metrics where
  counts : Counts
  score : Number
  factors : List Text
deriving DecidableEq

namespace Metrics

/-- The metrics of a template. -/
def ofText (dialect : Dialect) (text : Text) (h : Heuristics) : Except Fault Metrics := do
  let counts := Counts.ofText dialect text
  let score ← counts.amounts.score h
  let factors ← counts.amounts.factors h
  pure ⟨counts, score.round 2, factors⟩

/-- The estimate with the penalty of a finding added. -/
def addPenalty (h : Heuristics) (estimate : Number) (f : Finding) : Except Fault Number :=
  match f.severity with
  | .critical => estimate.add h.renderCriticalPenaltyMs
  | .warning => estimate.add h.renderWarningPenaltyMs
  | _ => .ok estimate

/-- The estimated time to render a template in milliseconds, rounded to one place. -/
def renderTime (m : Metrics) (findings : List Finding) (h : Heuristics) : Except Fault Number := do
  let loops ← (Number.int m.counts.loops).mul h.renderLoopMs
  let sum ← h.renderBaseMs.add loops
  let conditionals ← (Number.int m.counts.conditionals).mul h.renderConditionalMs
  let sum ← sum.add conditionals
  let tags ← (Number.int m.counts.tags).mul h.renderTagMs
  let structural ← sum.add tags
  let estimate ← findings.foldlM (addPenalty h) structural
  pure (estimate.round 1)

end Metrics

end TemplateLint
