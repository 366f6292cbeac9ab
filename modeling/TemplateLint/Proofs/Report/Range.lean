import TemplateLint.Proofs.Analysis.Answers
import TemplateLint.Proofs.Number.Range
import TemplateLint.Report

/-!
# Reports in range

Two steps of a report can leave the range of the numbers, and the settings and the counts tell when.  The
render time of a template can be added up unless all weights that it is made of are integers and their
sum is too large (`Metrics.renderTime_eq_int_iff`).  The performance score exists if what is left of a
hundred is finite when whatever is too large is taken for infinite (`performanceScore_eq_ok_iff`).
-/
namespace TemplateLint

/-- How many findings have a severity. -/
def Severity.countIn (severity : Severity) (findings : List Finding) : Nat :=
  findings.countP (·.severity = severity)

theorem Severity.countIn_cons (severity : Severity) (f : Finding) (rest : List Finding) :
    severity.countIn (f :: rest) = severity.countIn [f] + severity.countIn rest := by
  rw [countIn, ← List.singleton_append, List.countP_append]
  rfl

/-! ## Render times -/

/-- The integer that a number is, if it is one. -/
def Number.int? : Number → Option Int
  | int n => some n
  | real _ => none

theorem Number.int?_eq_some_iff {x : Number} {n : Int} : x.int? = some n ↔ x = int n := by
  cases x with
  | int m => exact ⟨fun h => congrArg int (Option.some.inj h), fun h => congrArg int? h⟩
  | real x => exact ⟨nofun, nofun⟩

/-- What some findings cost in integers.  No finding costs nothing, whatever one would cost. -/
def charge? (count : Nat) (cost : Number) : Option Int :=
  if count = 0 then some 0 else cost.int?.map (count * ·)

@[simp] theorem charge?_zero (cost : Number) : charge? 0 cost = some 0 := rfl

@[simp] theorem charge?_int (count : Nat) (n : Int) : charge? count (.int n) = some (count * n) := by
  rw [charge?]
  split
  · next hzero => rw [hzero, Int.natCast_zero, Int.zero_mul]
  · rfl

@[simp] theorem charge?_real_eq_some_iff {count : Nat} {x : Binary64} {n : Int} :
    charge? count (.real x) = some n ↔ count = 0 ∧ 0 = n := by
  rw [charge?]
  split
  · next hzero => exact ⟨fun h => ⟨hzero, Option.some.inj h⟩, fun h => congrArg some h.2⟩
  · next hsome => exact ⟨nofun, fun h => absurd h.1 hsome⟩

/-- One finding costs what it costs. -/
@[simp] theorem charge?_one_eq_some_iff {cost : Number} {n : Int} :
    charge? 1 cost = some n ↔ cost = .int n := by
  cases cost with
  | int b => simp
  | real x => simp

/-- The findings of two groups cost what each of the groups costs. -/
theorem charge?_add_eq_some_iff {k l : Nat} {cost : Number} {n : Int} :
    charge? (k + l) cost = some n ↔
      ∃ a b, charge? k cost = some a ∧ charge? l cost = some b ∧ a + b = n := by
  cases cost with
  | int c => simp [Int.add_mul]
  | real x => simp only [charge?_real_eq_some_iff, Nat.add_eq_zero_iff]; grind

/-- The whole render time in integers, before it is rounded: a base, the weight of every loop,
conditional and tag, and what critical findings and warnings cost.  It exists if everything that counts
is an integer. -/
def Heuristics.wholeTime? (h : Heuristics) (c : Counts) (critical warnings : Nat) : Option Int := do
  let base ← h.renderBaseMs.int?
  let loop ← h.renderLoopMs.int?
  let conditional ← h.renderConditionalMs.int?
  let tag ← h.renderTagMs.int?
  let criticalCost ← charge? critical h.renderCriticalPenaltyMs
  let warningCost ← charge? warnings h.renderWarningPenaltyMs
  pure (base + c.loops * loop + c.conditionals * conditional + c.tags * tag + criticalCost +
    warningCost)

namespace Metrics

variable {h : Heuristics}

/-- An estimate with a penalty added is an integer if the estimate and the penalty are. -/
theorem addPenalty_eq_int_iff {f : Finding} {estimate : Number} {n : Int} :
    addPenalty h estimate f = .ok (.int n) ↔ ∃ s criticalCost warningCost, estimate = .int s ∧
      charge? (Severity.critical.countIn [f]) h.renderCriticalPenaltyMs = some criticalCost ∧
      charge? (Severity.warning.countIn [f]) h.renderWarningPenaltyMs = some warningCost ∧
        s + criticalCost + warningCost = n := by
  have hadd : ∀ cost : Number, estimate.add cost = .ok (.int n) ↔
      ∃ s c, estimate = .int s ∧ cost = .int c ∧ s + c = n := fun cost =>
    Number.combine_eq_int_iff
  cases hseverity : f.severity with
  | critical => simp [addPenalty, Severity.countIn, hseverity, hadd]
  | warning => simp [addPenalty, Severity.countIn, hseverity, hadd]
  | _ => simp [addPenalty, Severity.countIn, hseverity]

/-- An estimate with the penalties added is an integer if the estimate and the penalties are. -/
theorem foldlM_addPenalty_eq_int_iff {findings : List Finding} {estimate : Number} {n : Int} :
    findings.foldlM (addPenalty h) estimate = .ok (.int n) ↔ ∃ s criticalCost warningCost,
      estimate = .int s ∧
      charge? (Severity.critical.countIn findings) h.renderCriticalPenaltyMs = some criticalCost ∧
      charge? (Severity.warning.countIn findings) h.renderWarningPenaltyMs = some warningCost ∧
        s + criticalCost + warningCost = n := by
  induction findings generalizing estimate with
  | nil =>
    constructor
    · intro hn
      exact ⟨n, 0, 0, Except.ok.inj hn, rfl, rfl, by omega⟩
    · rintro ⟨s, c, w, rfl, hc, hw, rfl⟩
      obtain rfl := Option.some.inj hc
      obtain rfl := Option.some.inj hw
      rw [Int.add_zero, Int.add_zero]
      rfl
  | cons f rest ih =>
    rw [List.foldlM_cons, Severity.countIn_cons .critical f rest, Severity.countIn_cons .warning f rest]
    simp only [charge?_add_eq_some_iff]
    constructor
    · intro hn
      obtain ⟨next, hnext, hrest⟩ := Answers.bind_eq_ok hn
      obtain ⟨_, c', w', rfl, hc', hw', hsum⟩ := ih.mp hrest
      obtain ⟨s, c, w, hs, hc, hw, rfl⟩ := addPenalty_eq_int_iff.mp hnext
      exact ⟨s, c + c', w + w', hs, ⟨c, c', hc, hc', rfl⟩, ⟨w, w', hw, hw', rfl⟩, by omega⟩
    · rintro ⟨s, _, _, hs, ⟨c, c', hc, hc', rfl⟩, ⟨w, w', hw, hw', rfl⟩, hsum⟩
      have hnext : addPenalty h estimate f = .ok (.int (s + c + w)) :=
        addPenalty_eq_int_iff.mpr ⟨s, c, w, hs, hc, hw, rfl⟩
      exact Answers.bind_of_eq_ok hnext (ih.mpr ⟨_, c', w', rfl, hc', hw', by omega⟩)

theorem round_eq_int_iff {x : Number} {places : Nat} {n : Int} :
    x.round places = .int n ↔ x = .int n := by
  cases x with
  | int m => exact Iff.rfl
  | real x => exact ⟨nofun, nofun⟩

/-- **A render time is an integer exactly if the settings and the counts make it one.** -/
theorem renderTime_eq_int_iff {m : Metrics} {findings : List Finding} {n : Int} :
    m.renderTime findings h = .ok (.int n) ↔
      h.wholeTime? m.counts (Severity.critical.countIn findings) (Severity.warning.countIn findings) =
        some n := by
  simp only [Heuristics.wholeTime?, Option.bind_eq_bind, Option.bind_eq_some_iff,
    Number.int?_eq_some_iff, Option.pure_def, Option.some.injEq]
  constructor
  · intro htime
    obtain ⟨loops, hloops, htime⟩ := Answers.bind_eq_ok htime
    obtain ⟨sum, hsum, htime⟩ := Answers.bind_eq_ok htime
    obtain ⟨conditionals, hconditionals, htime⟩ := Answers.bind_eq_ok htime
    obtain ⟨sum', hsum', htime⟩ := Answers.bind_eq_ok htime
    obtain ⟨tags, htags, htime⟩ := Answers.bind_eq_ok htime
    obtain ⟨structural, hstructural, htime⟩ := Answers.bind_eq_ok htime
    obtain ⟨estimate, hestimate, hround⟩ := Answers.bind_eq_ok htime
    -- from the end back to the base every operand has to be an integer
    obtain rfl := round_eq_int_iff.mp (Except.ok.inj hround)
    obtain ⟨_, c, w, rfl, hc, hw, rfl⟩ := foldlM_addPenalty_eq_int_iff.mp hestimate
    obtain ⟨_, _, rfl, rfl, rfl⟩ := Number.combine_eq_int_iff.mp hstructural
    obtain ⟨_, _, rfl, rfl, rfl⟩ := Number.combine_eq_int_iff.mp hsum'
    obtain ⟨base, _, hbase, rfl, rfl⟩ := Number.combine_eq_int_iff.mp hsum
    obtain ⟨tag, htag, rfl⟩ := Number.int_mul_eq_int_iff.mp htags
    obtain ⟨conditional, hconditional, rfl⟩ := Number.int_mul_eq_int_iff.mp hconditionals
    obtain ⟨loop, hloop, rfl⟩ := Number.int_mul_eq_int_iff.mp hloops
    exact ⟨base, hbase, loop, hloop, conditional, hconditional, tag, htag, c, hc, w, hw, rfl⟩
  · rintro ⟨base, hbase, loop, hloop, conditional, hconditional, tag, htag, c, hc, w, hw, rfl⟩
    have hestimate := foldlM_addPenalty_eq_int_iff.mpr ⟨base + m.counts.loops * loop +
      m.counts.conditionals * conditional + m.counts.tags * tag, c, w, rfl, hc, hw, rfl⟩
    rw [renderTime, hbase, hloop, hconditional, htag]
    show (findings.foldlM (addPenalty h) _ >>= _) = _
    rw [hestimate]
    rfl

end Metrics

/-- The render time of an analysis can be added to others unless it is made of integers and too
large. -/
theorem TemplateAnalysis.renderTime_toReal_answers_iff {h : Heuristics} {o : AnalysisOptions}
    {s : TemplateSource} {a : TemplateAnalysis} (ha : ofSource h o s = .ok a) :
    Answers a.renderTime.toReal ↔ ∀ n, h.wholeTime? a.metrics.counts
      (Severity.critical.countIn a.issues) (Severity.warning.countIn a.issues) = some n →
        n.natAbs < sizeBound := by
  obtain ⟨-, -, -, -, -, -, htime, -⟩ := ofSource_eq_ok ha
  cases hreal : a.renderTime with
  | real x =>
    refine iff_of_true (Answers.ok x) fun n hn => ?_
    have hint := Metrics.renderTime_eq_int_iff.mpr hn
    rw [htime, hreal] at hint
    cases hint
  | int m =>
    rw [hreal] at htime
    rw [Number.toReal_int_answers_iff, Metrics.renderTime_eq_int_iff.mp htime]
    simp only [Option.some.injEq, forall_eq']

/-! ## The performance score -/

namespace Heuristics

variable {h : Heuristics}

/-- The penalty that is due for a render time, if one is. -/
def duePenalty? (h : Heuristics) (time : Number) : Option Number :=
  if h.verySlowRenderMs.toNumber?.any (·.lt time) then some h.verySlowRenderPenalty
  else if h.slowRenderMs.toNumber?.any (·.lt time) then some h.slowRenderPenalty
  else none

/-- What is left of a hundred, infinite or undefined where a part of it is too large. -/
def leftOver (h : Heuristics) (critical others : Int) (time : Number) : Number :=
  let left := ((Number.int 100).minus ((Number.int critical).times h.scoreCriticalPenalty)).minus
    ((Number.int others).times h.scoreIssuePenalty)
  (h.duePenalty? time).elim left left.minus

/-- Under heuristics that may be used a render time can be compared. -/
theorem renderPenalty?_eq (haccepted : h.accepted = true) (time : Number) :
    renderPenalty? h time = .ok (h.duePenalty? time) := by
  have hbelow : ∀ threshold ∈ h.thresholds,
      threshold.isBelow time = .ok (threshold.toNumber?.any (·.lt time)) := by
    intro threshold hmem
    obtain ⟨limit, hlimit⟩ := Option.isSome_iff_exists.mp (isNumber_of_accepted haccepted hmem)
    rw [Value.isBelow, hlimit]
    rfl
  rw [renderPenalty?, duePenalty?, hbelow h.verySlowRenderMs (by simp [thresholds]),
    hbelow h.slowRenderMs (by simp [thresholds])]
  cases h.verySlowRenderMs.toNumber?.any (·.lt time) with
  | true => rfl
  | false =>
    cases h.slowRenderMs.toNumber?.any (·.lt time) with
    | true => rfl
    | false => rfl

end Heuristics

/-- Under heuristics that may be used a score is computed by sums and products alone. -/
theorem performanceScore_eq_bind {h : Heuristics} (haccepted : h.accepted = true)
    (critical total : Int) (time : Number) :
    performanceScore h (.int critical) (.int total) time = (do
      let criticalLoss ← (Number.int critical).mul h.scoreCriticalPenalty
      let first ← (Number.int 100).sub criticalLoss
      let otherLoss ← (Number.int (total - critical)).mul h.scoreIssuePenalty
      let second ← first.sub otherLoss
      let left ← (h.duePenalty? time).elim (.ok second) second.sub
      let whole ← left.toInt
      pure (max 0 whole)) := by
  rw [performanceScore, Heuristics.renderPenalty?_eq haccepted]
  cases h.duePenalty? time with
  | none => rfl
  | some penalty => rfl

/-- **A performance score is what is left of a hundred, if that is finite**, and not below zero. -/
theorem performanceScore_eq_ok_iff {h : Heuristics} (haccepted : h.accepted = true)
    {critical total score : Int} {time : Number} :
    performanceScore h (.int critical) (.int total) time = .ok score ↔
      ∃ n, (h.leftOver critical (total - critical) time).toInt = .ok n ∧ max 0 n = score := by
  rw [performanceScore_eq_bind haccepted, Heuristics.leftOver]
  constructor
  · intro hscore
    obtain ⟨_, hcritical, hrest⟩ := Answers.bind_eq_ok hscore
    obtain ⟨_, hfirst, hrest⟩ := Answers.bind_eq_ok hrest
    obtain ⟨_, hother, hrest⟩ := Answers.bind_eq_ok hrest
    obtain ⟨_, hsecond, hrest⟩ := Answers.bind_eq_ok hrest
    obtain ⟨left, hleft, hrest⟩ := Answers.bind_eq_ok hrest
    obtain ⟨n, hn, hmax⟩ := Answers.bind_eq_ok hrest
    refine ⟨n, ?_, Except.ok.inj hmax⟩
    rw [Number.mul_eq_ok hcritical, Number.sub_eq_ok hfirst, Number.mul_eq_ok hother,
      Number.sub_eq_ok hsecond]
    cases hdue : h.duePenalty? time with
    | none =>
      rw [hdue] at hleft
      rw [← hn, ← Except.ok.inj hleft]
      rfl
    | some penalty =>
      rw [hdue] at hleft
      rw [← hn, ← Number.sub_eq_ok hleft]
      rfl
  · rintro ⟨n, hn, rfl⟩
    have hfinite := Number.toInt_answers_iff.mp ⟨n, hn⟩
    -- what is finite at the end was so all along, so no step has stopped
    generalize hdue : h.duePenalty? time = due at hn hfinite
    have hleft : ∀ second : Number, (due.elim second second.minus).IsFinite →
        second.IsFinite ∧ due.elim (.ok second) second.sub = .ok (due.elim second second.minus) := by
      intro second h
      cases due with
      | none => exact ⟨h, rfl⟩
      | some penalty =>
        obtain ⟨hsecond, -, hsub⟩ := Number.IsFinite.of_minus h
        exact ⟨hsecond, hsub⟩
    obtain ⟨hsecond, hlast⟩ := hleft _ hfinite
    obtain ⟨hfirst, hotherLoss, hsub'⟩ := hsecond.of_minus
    obtain ⟨-, hcriticalLoss, hsub⟩ := hfirst.of_minus
    obtain ⟨-, -, hmul⟩ := hcriticalLoss.of_times
    obtain ⟨-, -, hmul'⟩ := hotherLoss.of_times
    exact Answers.bind_of_eq_ok hmul (Answers.bind_of_eq_ok hsub (Answers.bind_of_eq_ok hmul'
      (Answers.bind_of_eq_ok hsub' (Answers.bind_of_eq_ok hlast (Answers.bind_of_eq_ok hn rfl)))))

/-- A performance score exists exactly if what is left of a hundred is finite. -/
theorem performanceScore_answers_iff {h : Heuristics} (haccepted : h.accepted = true)
    {critical total : Int} {time : Number} :
    Answers (performanceScore h (.int critical) (.int total) time) ↔
      (h.leftOver critical (total - critical) time).IsFinite := by
  rw [← Number.toInt_answers_iff]
  constructor
  · rintro ⟨score, hscore⟩
    obtain ⟨n, hn, -⟩ := (performanceScore_eq_ok_iff haccepted).mp hscore
    exact ⟨n, hn⟩
  · rintro ⟨n, hn⟩
    exact ⟨max 0 n, (performanceScore_eq_ok_iff haccepted).mpr ⟨n, hn, rfl⟩⟩

end TemplateLint
