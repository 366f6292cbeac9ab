import TemplateLint.Proofs.Answers
import TemplateLint.Proofs.Number.Order
import TemplateLint.Report

/-!
# The performance score

If the penalties are integers, a score is plain arithmetic on them (`performanceScore_eq`), and it lies
between zero and a hundred (`Grading.score_nonneg`, `Grading.score_le`).  More issues and slower
rendering never raise it exactly if the penalty for very slow rendering is not the smaller one, or if
that makes no difference (`Grading.antitone_iff`).
-/
namespace TemplateLint

/-- Every penalty of a score is an integer. -/
def Heuristics.IntegerPenalties (h : Heuristics) : Prop :=
  ∀ w ∈ [h.scoreCriticalPenalty, h.scoreIssuePenalty, h.slowRenderPenalty,
    h.verySlowRenderPenalty], ∃ n, w = .int n

/-- How reports are graded: the penalties, and the render times above which the last two are due. -/
structure Grading where
  critical : Int
  issue : Int
  slow : Int
  verySlow : Int
  slowAbove : Number
  verySlowAbove : Number

/-- What some heuristics say about grading. -/
structure Heuristics.GradesBy (h : Heuristics) (g : Grading) : Prop where
  critical : h.scoreCriticalPenalty = .int g.critical
  issue : h.scoreIssuePenalty = .int g.issue
  slow : h.slowRenderPenalty = .int g.slow
  verySlow : h.verySlowRenderPenalty = .int g.verySlow
  slowAbove : h.slowRenderMs.toNumber? = some g.slowAbove
  verySlowAbove : h.verySlowRenderMs.toNumber? = some g.verySlowAbove

/-- No penalty is negative. -/
structure Grading.Fair (g : Grading) : Prop where
  critical : 0 ≤ g.critical
  issue : 0 ≤ g.issue
  slow : 0 ≤ g.slow
  verySlow : 0 ≤ g.verySlow

namespace Heuristics

variable {h : Heuristics} {g : Grading}

/-- Accepted heuristics with integer penalties grade. -/
theorem exists_gradesBy (haccepted : h.accepted = true) (hpenalties : h.IntegerPenalties) :
    ∃ g, h.GradesBy g := by
  obtain ⟨critical, hcritical⟩ := hpenalties h.scoreCriticalPenalty (by simp)
  obtain ⟨issue, hissue⟩ := hpenalties h.scoreIssuePenalty (by simp)
  obtain ⟨slow, hslow⟩ := hpenalties h.slowRenderPenalty (by simp)
  obtain ⟨verySlow, hverySlow⟩ := hpenalties h.verySlowRenderPenalty (by simp)
  have hnumber : ∀ t ∈ h.thresholds, ∃ n, t.toNumber? = some n := fun t ht =>
    Option.isSome_iff_exists.mp (isNumber_of_accepted haccepted ht)
  obtain ⟨slowAbove, hslowAbove⟩ := hnumber h.slowRenderMs (by simp [thresholds])
  obtain ⟨verySlowAbove, hverySlowAbove⟩ := hnumber h.verySlowRenderMs (by simp [thresholds])
  exact ⟨⟨critical, issue, slow, verySlow, slowAbove, verySlowAbove⟩,
    hcritical, hissue, hslow, hverySlow, hslowAbove, hverySlowAbove⟩

theorem GradesBy.integerPenalties (hg : h.GradesBy g) : h.IntegerPenalties := by
  simp only [IntegerPenalties, List.forall_mem_cons, List.not_mem_nil, false_implies, implies_true,
    and_true]
  exact ⟨⟨_, hg.critical⟩, ⟨_, hg.issue⟩, ⟨_, hg.slow⟩, ⟨_, hg.verySlow⟩⟩

/-- How reports are graded unless something else is given. -/
theorem default_gradesBy : Heuristics.default.GradesBy
    ⟨20, 10, 15, 30, real 500 0, real 1000 0⟩ :=
  ⟨rfl, rfl, rfl, rfl, rfl, rfl⟩

/-- Accepted heuristics have no negative penalty. -/
theorem GradesBy.fair (hg : h.GradesBy g) (haccepted : h.accepted = true) : g.Fair := by
  have hweights : ∀ w ∈ h.weights, w.lt 0 = false := by
    simp only [accepted, Bool.and_eq_true] at haccepted
    intro w hw
    simpa using List.all_eq_true.mp haccepted.1.1.1.1.1.1.2 w hw
  have hint : ∀ n : Int, .int n ∈ h.weights → 0 ≤ n := by
    intro n hn
    have hlt : decide (n < 0) = false := hweights (.int n) hn
    simpa using hlt
  refine ⟨hint _ ?_, hint _ ?_, hint _ ?_, hint _ ?_⟩
  · simp [weights, ← hg.critical]
  · simp [weights, ← hg.issue]
  · simp [weights, ← hg.slow]
  · simp [weights, ← hg.verySlow]

end Heuristics

namespace Grading

variable {h : Heuristics} {g : Grading}

/-- The penalty for a render time. -/
def renderLoss (g : Grading) (renderTime : Number) : Int :=
  if g.verySlowAbove.lt renderTime then g.verySlow
  else if g.slowAbove.lt renderTime then g.slow
  else 0

/-- The score for some critical issues, some others, and a render time. -/
def score (g : Grading) (critical others : Int) (renderTime : Number) : Int :=
  max 0 (100 - critical * g.critical - others * g.issue - g.renderLoss renderTime)

/-- A score with integer penalties is plain arithmetic. -/
theorem performanceScore_eq (hg : h.GradesBy g) (critical total : Int) (renderTime : Number) :
    performanceScore h (.int critical) (.int total) renderTime =
      .ok (g.score critical (total - critical) renderTime) := by
  have hverySlow : h.verySlowRenderMs.isBelow renderTime =
      .ok (g.verySlowAbove.lt renderTime) := by
    rw [Value.isBelow, hg.verySlowAbove]
  have hslow : h.slowRenderMs.isBelow renderTime = .ok (g.slowAbove.lt renderTime) := by
    rw [Value.isBelow, hg.slowAbove]
  rw [performanceScore, renderPenalty?, hg.critical, hg.issue, hg.slow, hg.verySlow, hverySlow,
    hslow, score, renderLoss]
  cases g.verySlowAbove.lt renderTime with
  | true => rfl
  | false =>
    cases g.slowAbove.lt renderTime with
    | true => rfl
    | false => exact congrArg (fun n => Except.ok (max 0 n)) (Int.sub_zero _).symm

/-! ## The range of a score -/

theorem score_nonneg (critical others : Int) (renderTime : Number) :
    0 ≤ g.score critical others renderTime :=
  Int.le_max_left _ _

theorem Fair.renderLoss_nonneg (hg : g.Fair) (renderTime : Number) :
    0 ≤ g.renderLoss renderTime := by
  rw [renderLoss]
  split
  · exact hg.verySlow
  · split
    · exact hg.slow
    · exact Int.le_refl 0

/-- Counts of issues only take away from the score. -/
theorem Fair.score_le (hg : g.Fair) {critical others : Int} (hcritical : 0 ≤ critical)
    (hothers : 0 ≤ others) (renderTime : Number) :
    g.score critical others renderTime ≤ 100 := by
  have hfirst : 0 ≤ critical * g.critical := Int.mul_nonneg hcritical hg.critical
  have hsecond : 0 ≤ others * g.issue := Int.mul_nonneg hothers hg.issue
  have hthird := hg.renderLoss_nonneg renderTime
  rw [score]
  omega

/-! ## Slower rendering -/

/-- Slower rendering is not rewarded: the penalty for very slow rendering is not the smaller one, or it
takes everything, or no render time is slow without being very slow while another is very slow. -/
def Falls (g : Grading) : Prop :=
  g.slow ≤ g.verySlow ∨ 100 ≤ g.verySlow ∨
    ¬ (g.slowAbove.lt g.verySlowAbove = true ∧
      g.verySlowAbove.lt (.real (.infinite false)) = true)

/-- A slower time is charged at least as much, unless the first one is slow, the second one very slow,
and the limits for both lie apart. -/
theorem renderLoss_le (hg : g.Fair) {time time' : Number} (h : time.le time' = true) :
    g.renderLoss time ≤ g.renderLoss time' ∨
      g.renderLoss time = g.slow ∧ g.renderLoss time' = g.verySlow ∧
        g.slowAbove.lt g.verySlowAbove = true ∧
          g.verySlowAbove.lt (.real (.infinite false)) = true := by
  have hmono : ∀ limit : Number, limit.lt time = true → limit.lt time' = true :=
    fun limit hlimit => Number.lt_of_lt_of_le hlimit h
  by_cases hvery : g.verySlowAbove.lt time = true
  · left
    rw [renderLoss, renderLoss, if_pos hvery, if_pos (hmono _ hvery)]
  · by_cases hslow : g.slowAbove.lt time = true
    · by_cases hvery' : g.verySlowAbove.lt time' = true
      · right
        have hgap : g.slowAbove.lt g.verySlowAbove = true :=
          Number.lt_of_lt_of_not_lt hslow hvery (Number.isNan_left_of_lt hvery')
        have hend : g.verySlowAbove.lt (.real (.infinite false)) = true :=
          Number.lt_infinite_of_lt hvery'
        rw [renderLoss, renderLoss, if_neg hvery, if_pos hslow, if_pos hvery']
        exact ⟨rfl, rfl, hgap, hend⟩
      · left
        rw [renderLoss, renderLoss, if_neg hvery, if_pos hslow, if_neg hvery',
          if_pos (hmono _ hslow)]
    · left
      have hnone : g.renderLoss time = 0 := by rw [renderLoss, if_neg hvery, if_neg hslow]
      rw [hnone]
      exact hg.renderLoss_nonneg time'

/-- More issues and slower rendering do not raise a score that falls. -/
theorem score_antitone (hg : g.Fair) (hfalls : g.Falls) {critical others critical' others' : Int}
    {time time' : Number} (hcritical : 0 ≤ critical) (hothers : 0 ≤ others)
    (hmoreCritical : critical ≤ critical') (hmoreOthers : others ≤ others')
    (hslower : time.le time' = true) :
    g.score critical' others' time' ≤ g.score critical others time := by
  have hfirst : critical * g.critical ≤ critical' * g.critical :=
    Int.mul_le_mul_of_nonneg_right hmoreCritical hg.critical
  have hsecond : others * g.issue ≤ others' * g.issue :=
    Int.mul_le_mul_of_nonneg_right hmoreOthers hg.issue
  have hfirst' : 0 ≤ critical * g.critical := Int.mul_nonneg hcritical hg.critical
  have hsecond' : 0 ≤ others * g.issue := Int.mul_nonneg hothers hg.issue
  rw [score, score]
  rcases renderLoss_le hg hslower with hless | ⟨hslow, hverySlow, hgap, hend⟩
  · omega
  · rcases hfalls with hle | hall | hapart
    · omega
    · omega
    · exact absurd ⟨hgap, hend⟩ hapart

/-- If the score does not fall, two render times without any issue show it. -/
theorem score_lt_of_not_falls (hg : g.Fair) (h : ¬ g.Falls) :
    (g.verySlowAbove).le (.real (.infinite false)) = true ∧
      g.score 0 0 g.verySlowAbove < g.score 0 0 (.real (.infinite false)) := by
  simp only [Falls, not_or, not_not] at h
  obtain ⟨hless, hsmall, hgap, hend⟩ := h
  have hslow : g.renderLoss g.verySlowAbove = g.slow := by
    have hself : ¬ g.verySlowAbove.lt g.verySlowAbove = true := by
      rw [Number.lt_irrefl]
      exact Bool.false_ne_true
    rw [renderLoss, if_neg hself, if_pos hgap]
  have hverySlow : g.renderLoss (.real (.infinite false)) = g.verySlow := by
    rw [renderLoss, if_pos hend]
  refine ⟨Number.le_of_lt hend, ?_⟩
  have hpenalty := hg.slow
  rw [score, score, hslow, hverySlow]
  omega

end Grading
end TemplateLint
