import TemplateLint.Proofs.Number.Rounded
import TemplateLint.Proofs.Report.Draft

/-!
# Growing reports

More issues and slower rendering should not raise a score.  They do where slow rendering costs more
than very slow rendering, which accepted heuristics may say: `performanceScore_antitone_iff` gives the
exact condition.  Under it no template raises the score of a report that it is added to, because the
render time of a report grows with each template and is rounded in its order.
-/
namespace TemplateLint

/-- What a score depends on. -/
structure Load where
  critical : Int
  total : Int
  renderTime : Number

namespace Load

/-- Some of the issues are critical. -/
def IsCount (l : Load) : Prop := 0 ≤ l.critical ∧ l.critical ≤ l.total

/-- One load is at most another: critical issues, other issues and the render time. -/
structure AtMost (l m : Load) : Prop where
  critical : l.critical ≤ m.critical
  others : l.total - l.critical ≤ m.total - m.critical
  renderTime : l.renderTime.le m.renderTime = true

/-- The performance score under a load. -/
def score (h : Heuristics) (l : Load) : Except Fault Int :=
  performanceScore h (.int l.critical) (.int l.total) l.renderTime

end Load

/-- A larger load has no higher score. -/
def Heuristics.ScoreFalls (h : Heuristics) : Prop :=
  ∀ l m : Load, l.IsCount → l.AtMost m →
    ∃ s t, l.score h = .ok s ∧ m.score h = .ok t ∧ t ≤ s

namespace Grading

variable {h : Heuristics} {g : Grading}

/-- A larger load has no higher score exactly under the condition on the two penalties. -/
theorem scoreFalls_iff (hg : h.GradesBy g) (hfair : g.Fair) : h.ScoreFalls ↔ g.Falls := by
  constructor
  · intro hfalls
    by_contra hnot
    obtain ⟨hle, hlt⟩ := score_lt_of_not_falls hfair hnot
    obtain ⟨s, t, hs, ht, hts⟩ := hfalls ⟨0, 0, g.verySlowAbove⟩
      ⟨0, 0, .real (.infinite false)⟩ ⟨Int.le_refl 0, Int.le_refl 0⟩
      ⟨Int.le_refl 0, Int.le_refl _, hle⟩
    rw [Load.score, performanceScore_eq hg] at hs ht
    obtain rfl := Except.ok.inj hs
    obtain rfl := Except.ok.inj ht
    exact absurd hlt (Int.not_lt.mpr hts)
  · rintro hfalls l m ⟨hcritical, htotal⟩ hlm
    refine ⟨_, _, performanceScore_eq hg _ _ _, performanceScore_eq hg _ _ _, ?_⟩
    exact score_antitone hfair hfalls hcritical (by omega) hlm.critical hlm.others hlm.renderTime

end Grading

/-! ## Adding a template -/

/-- A number that is not negative stays so when it is converted. -/
theorem Number.toReal_nonneg {n : Number} {x : Binary64} (h : (Number.int 0).le n = true)
    (hx : n.toReal = .ok x) : (Number.int 0).le (.real x) = true := by
  cases n with
  | real y =>
    obtain rfl := Except.ok.inj hx
    exact h
  | int n =>
    have hn : 0 ≤ n := by
      have hnot : (!decide (n < 0)) = true := h
      simpa using hnot
    have hsign : decide (n < 0) = false := decide_eq_false (Int.not_lt.mpr hn)
    rw [toReal, hsign, Binary64.ofQuotient, Binary64.ofUnits] at hx
    split at hx
    · cases hx
    · obtain rfl := Except.ok.inj hx
      refine (Number.le_iff _ _).mpr ⟨_, _, rfl, rfl, ?_⟩
      rw [Int.zero_mul]
      exact WithBot.coe_le_coe.mpr (WithTop.coe_le_coe.mpr (Int.natCast_nonneg _))

/-- The render time of an analysis is not negative, and it is defined. -/
def TemplateAnalysis.IsTimed (a : TemplateAnalysis) : Prop := (Number.int 0).le a.renderTime = true

namespace ReportDraft

variable {analyses : List TemplateAnalysis} {files : List SkippedFile} {d d' : ReportDraft}

/-- Adding an analysis adds its render time and its issues. -/
theorem add_eq_ok {a : TemplateAnalysis} (hadd : d.add a = .ok d') :
    ∃ time, a.renderTime.toReal = .ok time ∧ d'.renderTime = d.renderTime.add time ∧
      d'.findings = d.findings ++ a.issues := by
  obtain ⟨time, htime, hok⟩ := Answers.bind_eq_ok hadd
  obtain rfl := Except.ok.inj hok
  exact ⟨time, htime, rfl, rfl⟩

/-- A render time that is added does not shorten the whole. -/
theorem renderTime_add {a : TemplateAnalysis} (hd : d.renderTime.Rounded) (ha : a.IsTimed)
    (hadd : d.add a = .ok d') :
    d'.renderTime.Rounded ∧ (Number.real d.renderTime).le (.real d'.renderTime) = true := by
  obtain ⟨time, htime, hsum, -⟩ := add_eq_ok hadd
  rw [hsum]
  exact hd.add (Number.toReal_nonneg ha htime)

theorem renderTime_foldl_skip (files : List SkippedFile) (d : ReportDraft) :
    (files.foldl skip d).renderTime = d.renderTime := by
  induction files generalizing d with
  | nil => rfl
  | cons file rest ih => exact ih (d.skip file)

/-- The render time of a draft is a rounded sum. -/
theorem Gathers.renderTime_rounded (hd : Gathers analyses files d)
    (htimed : ∀ a ∈ analyses, a.IsTimed) : d.renderTime.Rounded := by
  induction analyses using List.reverseRecOn generalizing d with
  | nil =>
    obtain rfl := Except.ok.inj hd
    rw [renderTime_foldl_skip]
    exact .finite rfl
  | append_singleton analyses a ih =>
    obtain ⟨before, hbefore, hadd⟩ := hd.concat
    obtain ⟨hanalyses, ha⟩ := List.forall_mem_append.mp htimed
    exact (renderTime_add (ih hbefore hanalyses) (ha a List.mem_cons_self) hadd).1

/-- What a draft is graded by. -/
def load (d : ReportDraft) : Load where
  critical := d.criticalCodes.length
  total := d.findings.length
  renderTime := .real (d.renderTime.roundPlaces 1)

theorem length_criticalCodes_le (d : ReportDraft) : d.criticalCodes.length ≤ d.findings.length := by
  rw [criticalCodes, criticalRules, List.length_map]
  exact List.length_filter_le _ _

/-- A draft with a template more has the larger load. -/
theorem load_add {a : TemplateAnalysis} (hd : d.renderTime.Rounded) (ha : a.IsTimed)
    (hadd : d.add a = .ok d') : d.load.AtMost d'.load := by
  obtain ⟨time, -, -, hfindings⟩ := add_eq_ok hadd
  obtain ⟨hrounded, hle⟩ := renderTime_add hd ha hadd
  have hcodes : d'.criticalCodes.length =
      d.criticalCodes.length + (criticalRules a.issues).length := by
    rw [criticalCodes, hfindings, criticalRules_append, List.length_append]
    rfl
  have htotal : d'.findings.length = d.findings.length + a.issues.length := by
    rw [hfindings, List.length_append]
  have hfew : (criticalRules a.issues).length ≤ a.issues.length := by
    rw [criticalRules, List.length_map]
    exact List.length_filter_le _ _
  refine ⟨?_, ?_, hd.roundPlaces_le hrounded hle 1⟩
  · show (d.criticalCodes.length : Int) ≤ d'.criticalCodes.length
    omega
  · show (d.findings.length : Int) - d.criticalCodes.length ≤
      d'.findings.length - d'.criticalCodes.length
    omega

/-- The score of a report is that of the load of its draft. -/
theorem Holds.score_write {h : Heuristics} {r : Report} (hd : Holds analyses files d)
    (hr : d.write h = .ok r) : d.load.score h = .ok r.score := by
  have hscore := (write_eq_ok hr).1
  rwa [hd.counted_critical] at hscore

/-- A template does not raise the score if larger loads have no higher score. -/
theorem Gathers.score_add_le {h : Heuristics} (haccepted : h.accepted = true)
    (hpenalties : h.IntegerPenalties) (hfalls : h.ScoreFalls) (hd : Gathers analyses files d)
    {a : TemplateAnalysis} (htimed : ∀ b ∈ analyses ++ [a], b.IsTimed)
    (hadd : d.add a = .ok d') :
    ∃ r r', d.write h = .ok r ∧ d'.write h = .ok r' ∧ r'.score ≤ r.score := by
  obtain ⟨hanalyses, ha⟩ := List.forall_mem_append.mp htimed
  obtain ⟨r, hr⟩ := write_answers haccepted hpenalties d
  obtain ⟨r', hr'⟩ := write_answers haccepted hpenalties d'
  have hmore := load_add (hd.renderTime_rounded hanalyses) (ha a List.mem_cons_self) hadd
  have hcount : d.load.IsCount :=
    ⟨Int.natCast_nonneg _, Int.ofNat_le.mpr d.length_criticalCodes_le⟩
  obtain ⟨s, t, hs, ht, hts⟩ := hfalls d.load d'.load hcount hmore
  rw [hd.holds.score_write hr] at hs
  rw [(hd.add hadd).holds.score_write hr'] at ht
  obtain rfl := Except.ok.inj hs
  obtain rfl := Except.ok.inj ht
  exact ⟨r, r', hr, hr', hts⟩

end ReportDraft

/-- **When scores fall.**  With integer penalties a larger load never has a higher score exactly if slow
rendering does not cost more than very slow rendering, unless that makes no difference; and then no
template raises the score of a report. -/
theorem performanceScore_antitone_iff {h : Heuristics} {g : Grading} (haccepted : h.accepted = true)
    (hg : h.GradesBy g) :
    (h.ScoreFalls ↔ g.Falls) ∧
      (g.Falls → ∀ analyses files a d d', ReportDraft.Gathers analyses files d →
        (∀ b ∈ analyses ++ [a], TemplateAnalysis.IsTimed b) → d.add a = .ok d' →
          ∃ r r', d.write h = .ok r ∧ d'.write h = .ok r' ∧ r'.score ≤ r.score) := by
  have hiff := Grading.scoreFalls_iff hg (hg.fair haccepted)
  refine ⟨hiff, ?_⟩
  intro hfalls analyses files a d d' hd htimed hadd
  exact hd.score_add_le haccepted hg.integerPenalties (hiff.mpr hfalls) htimed hadd

/-- The default penalties. -/
theorem performanceScore_antitone_iff_default :
    let g : Grading := ⟨20, 10, 15, 30, Heuristics.real 500 0, Heuristics.real 1000 0⟩
    Heuristics.default.accepted = true ∧ Heuristics.default.GradesBy g ∧ g.Falls ∧
      Heuristics.default.ScoreFalls := by
  intro g
  have haccepted : Heuristics.default.accepted = true := by decide +kernel
  have hg : Heuristics.default.GradesBy g := Heuristics.default_gradesBy
  have hfalls : g.Falls := Or.inl (by decide)
  exact ⟨haccepted, hg, hfalls, (performanceScore_antitone_iff haccepted hg).1.mpr hfalls⟩

/-- Accepted penalties under which very slow rendering has the higher score. -/
theorem score_rises_of_verySlow :
    let h : Heuristics :=
      { Heuristics.default with slowRenderPenalty := 30, verySlowRenderPenalty := 0 }
    h.accepted = true ∧ h.IntegerPenalties ∧
      Load.score h ⟨0, 0, Heuristics.real 600 0⟩ = .ok 70 ∧
      Load.score h ⟨0, 0, Heuristics.real 1200 0⟩ = .ok 100 ∧ ¬ h.ScoreFalls := by
  intro h
  have haccepted : h.accepted = true := by decide +kernel
  have hslow : Load.score h ⟨0, 0, Heuristics.real 600 0⟩ = .ok 70 := by decide +kernel
  have hverySlow : Load.score h ⟨0, 0, Heuristics.real 1200 0⟩ = .ok 100 := by decide +kernel
  have hg : h.GradesBy ⟨20, 10, 30, 0, Heuristics.real 500 0, Heuristics.real 1000 0⟩ :=
    ⟨rfl, rfl, rfl, rfl, rfl, rfl⟩
  refine ⟨haccepted, hg.integerPenalties, hslow, hverySlow, ?_⟩
  intro hfalls
  have hle : (Heuristics.real 600 0).le (Heuristics.real 1200 0) = true := by decide +kernel
  obtain ⟨s, t, hs, ht, hts⟩ := hfalls ⟨0, 0, Heuristics.real 600 0⟩
    ⟨0, 0, Heuristics.real 1200 0⟩ ⟨Int.le_refl 0, Int.le_refl 0⟩
    ⟨Int.le_refl 0, Int.le_refl (0 - 0), hle⟩
  obtain rfl := Except.ok.inj (hslow.symm.trans hs)
  obtain rfl := Except.ok.inj (hverySlow.symm.trans ht)
  omega

end TemplateLint
