import TemplateLint.Value

/-!
# Heuristics

The weights of the scores and the thresholds of the detectors.  A weight is a number of either kind, and
keeps it in what is computed from it.  A threshold stays the value that was given, because only the
comparison with it shows whether it is a number.
-/
namespace TemplateLint

/-- The weights and the thresholds. -/
structure Heuristics where
  scoreLineDivisor : Number
  scoreLineCap : Number
  scoreTagWeight : Number
  scoreConditionalWeight : Number
  scoreLoopWeight : Number
  factorTagCount : Value
  factorConditionalCount : Value
  factorLoopCount : Value
  factorLineCount : Value
  factorIncludeCount : Value
  renderBaseMs : Number
  renderLoopMs : Number
  renderConditionalMs : Number
  renderTagMs : Number
  renderCriticalPenaltyMs : Number
  renderWarningPenaltyMs : Number
  scoreCriticalPenalty : Number
  scoreIssuePenalty : Number
  slowRenderMs : Value
  slowRenderPenalty : Number
  verySlowRenderMs : Value
  verySlowRenderPenalty : Number
  /-- The attributes that are loaded once per item of a loop. -/
  relationshipNames : List Value
  /-- The texts in an opener that show that relationships are loaded at once. -/
  eagerLoadMarkers : List Value
  paginationThreshold : Value
  memoryLimitThreshold : Value
  propertyAccessThreshold : Value
  excessivePartials : Value
  complexConditionalOperators : Value
  repeatedMarkupCount : Value
  inlineBlockChars : Value
  inlinePhpChars : Value
  longTemplateLines : Value
  inlineStyleAttributes : Value
  repeatedStringCount : Value
  dynamicValueCount : Value
deriving DecidableEq

namespace Heuristics

/-- A floating-point number from its decimal digits. -/
def real (digits : Nat) (exponent : Int) : Number :=
  .real (Binary64.ofDecimal false digits exponent)

/-- The weights and thresholds that hold unless others are given. -/
def default : Heuristics where
  scoreLineDivisor := real 10 0
  scoreLineCap := real 20 0
  scoreTagWeight := real 5 (-1)
  scoreConditionalWeight := real 2 0
  scoreLoopWeight := real 3 0
  factorTagCount := 50
  factorConditionalCount := 10
  factorLoopCount := 5
  factorLineCount := 200
  factorIncludeCount := 5
  renderBaseMs := real 10 0
  renderLoopMs := real 5 0
  renderConditionalMs := real 1 0
  renderTagMs := real 1 (-1)
  renderCriticalPenaltyMs := real 50 0
  renderWarningPenaltyMs := real 20 0
  scoreCriticalPenalty := 20
  scoreIssuePenalty := 10
  slowRenderMs := real 500 0
  slowRenderPenalty := 15
  verySlowRenderMs := real 1000 0
  verySlowRenderPenalty := 30
  relationshipNames :=
    [.text "author", .text "user", .text "category", .text "categories", .text "tags",
      .text "taxonomy"]
  eagerLoadMarkers := [.text "with=", .text "with(", .text "load("]
  paginationThreshold := 50
  memoryLimitThreshold := 1000
  propertyAccessThreshold := 3
  excessivePartials := 10
  complexConditionalOperators := 3
  repeatedMarkupCount := 3
  inlineBlockChars := 500
  inlinePhpChars := 200
  longTemplateLines := 100
  inlineStyleAttributes := 5
  repeatedStringCount := 2
  dynamicValueCount := 3

/-- The weights that must not be negative. -/
def weights (h : Heuristics) : List Number :=
  [h.scoreLineCap, h.scoreTagWeight, h.scoreConditionalWeight, h.scoreLoopWeight, h.renderBaseMs,
    h.renderLoopMs, h.renderConditionalMs, h.renderTagMs, h.renderCriticalPenaltyMs,
    h.renderWarningPenaltyMs, h.scoreCriticalPenalty, h.scoreIssuePenalty, h.slowRenderPenalty,
    h.verySlowRenderPenalty]

/-- The thresholds. -/
def thresholds (h : Heuristics) : List Value :=
  [h.factorTagCount, h.factorConditionalCount, h.factorLoopCount, h.factorLineCount,
    h.factorIncludeCount, h.slowRenderMs, h.verySlowRenderMs, h.paginationThreshold,
    h.memoryLimitThreshold, h.propertyAccessThreshold, h.excessivePartials,
    h.complexConditionalOperators, h.repeatedMarkupCount, h.inlineBlockChars, h.inlinePhpChars,
    h.longTemplateLines, h.inlineStyleAttributes, h.repeatedStringCount, h.dynamicValueCount]

/-- The second threshold is not below the first one. -/
def inOrder (lesser greater : Value) : Bool :=
  match lesser.toNumber?, greater.toNumber? with
  | some m, some n => !n.lt m
  | _, _ => false

/-- Heuristics that may be used: the divisor is positive, no weight is negative, every threshold is a
number, the paired ones are in order, some relationship is named, and every name is a text. -/
def accepted (h : Heuristics) : Bool :=
  !h.scoreLineDivisor.le 0 && h.weights.all (fun w => !w.lt 0) &&
    h.thresholds.all (·.isNumber) && inOrder h.slowRenderMs h.verySlowRenderMs &&
    inOrder h.paginationThreshold h.memoryLimitThreshold && !h.relationshipNames.isEmpty &&
    h.relationshipNames.all (·.isText) && h.eagerLoadMarkers.all (·.isText)

variable {h : Heuristics}

theorem isNumber_of_accepted (haccepted : h.accepted = true) {threshold : Value}
    (hmem : threshold ∈ h.thresholds) : threshold.isNumber = true := by
  simp only [accepted, Bool.and_eq_true] at haccepted
  exact List.all_eq_true.mp haccepted.1.1.1.1.1.2 threshold hmem

theorem names_of_accepted (haccepted : h.accepted = true) :
    h.relationshipNames.all (·.isText) = true ∧ h.eagerLoadMarkers.all (·.isText) = true := by
  simp only [accepted, Bool.and_eq_true] at haccepted
  exact ⟨haccepted.1.2, haccepted.2⟩

end Heuristics

end TemplateLint
