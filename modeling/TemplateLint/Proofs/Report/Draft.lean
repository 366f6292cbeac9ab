import TemplateLint.Proofs.Entries
import TemplateLint.Proofs.Report.Score

/-!
# Drafting a report

A draft gathers some analyses and some skipped files (`ReportDraft.Gathers`).  Each step adds one to
the one list or to the other, in whatever order the two kinds come, and writing a report changes
nothing (`ReportDraft.Gathers.run`).  The counters that are kept beside the findings agree with them
(`ReportDraft.Gathers.holds`), so a report that is written after any steps tells the sums over what
was added before it (`ReportDraft.run_writesTrue`).
-/
namespace TemplateLint
namespace ReportDraft

/-- The rules of the critical findings of a draft. -/
def criticalCodes (d : ReportDraft) : List Text := criticalRules d.findings

/-- The draft that some analyses make, with all skipped files noted first. -/
def gather (analyses : List TemplateAnalysis) (files : List SkippedFile) :
    Except Fault ReportDraft :=
  analyses.foldlM add (files.foldl skip empty)

/-- A draft is what some analyses and some skipped files make. -/
def Gathers (analyses : List TemplateAnalysis) (files : List SkippedFile) (d : ReportDraft) : Prop :=
  gather analyses files = .ok d

variable {analyses : List TemplateAnalysis} {files : List SkippedFile} {d d' : ReportDraft}

/-! ## One step -/

/-- An analysis can be added to any draft if its render time can. -/
theorem add_answers_iff {a : TemplateAnalysis} :
    Answers (d.add a) ↔ Answers a.renderTime.toReal :=
  Answers.bind_iff_left fun _ => Answers.pure _

/-- Noting a file and adding an analysis do not get in each other's way. -/
theorem skip_add (d : ReportDraft) (file : SkippedFile) (a : TemplateAnalysis) :
    (d.skip file).add a = (d.add a).map fun d => d.skip file := by
  rw [add, add]
  cases a.renderTime.toReal with
  | error fault => rfl
  | ok time => rfl

theorem foldlM_add_skip (d : ReportDraft) (file : SkippedFile) (analyses : List TemplateAnalysis) :
    analyses.foldlM add (d.skip file) = (analyses.foldlM add d).map fun d => d.skip file := by
  induction analyses generalizing d with
  | nil => rfl
  | cons a rest ih =>
    rw [List.foldlM_cons, List.foldlM_cons, skip_add]
    cases hadd : d.add a with
    | error fault => rfl
    | ok next => exact ih next

theorem gathers_empty : Gathers [] [] empty := rfl

theorem Gathers.add (hd : Gathers analyses files d) {a : TemplateAnalysis}
    (hadd : d.add a = .ok d') : Gathers (analyses ++ [a]) files d' := by
  rw [Gathers, gather] at hd ⊢
  rw [List.foldlM_append, hd]
  show [a].foldlM ReportDraft.add d = .ok d'
  rw [List.foldlM_cons, hadd]
  rfl

theorem Gathers.skip (hd : Gathers analyses files d) (file : SkippedFile) :
    Gathers analyses (files ++ [file]) (d.skip file) := by
  rw [Gathers, gather] at hd ⊢
  rw [List.foldl_append, List.foldl_cons, List.foldl_nil, foldlM_add_skip, hd]
  rfl

/-- The last of the analyses was added to what the others make. -/
theorem Gathers.concat {a : TemplateAnalysis} (hd : Gathers (analyses ++ [a]) files d) :
    ∃ before, Gathers analyses files before ∧ before.add a = .ok d := by
  rw [Gathers, gather, List.foldlM_append] at hd
  obtain ⟨before, hbefore, hlast⟩ := Answers.bind_eq_ok hd
  rw [List.foldlM_cons] at hlast
  obtain ⟨after, hadd, hafter⟩ := Answers.bind_eq_ok hlast
  obtain rfl := Except.ok.inj hafter
  exact ⟨before, hbefore, hadd⟩

/-! ## What a draft holds -/

/-- The parts of a draft that are counted or listed are the sums over what it gathers. -/
structure Holds (analyses : List TemplateAnalysis) (files : List SkippedFile) (d : ReportDraft) :
    Prop where
  templatesAnalyzed : d.templatesAnalyzed = analyses.length
  templatesWithIssues : d.templatesWithIssues = analyses.countP fun a => !a.issues.isEmpty
  findings : d.findings = analyses.flatMap (·.issues)
  critical : d.critical = tally d.criticalCodes
  metrics : d.metrics = Entries.putAll [] (analyses.map fun a => (a.path, a.metrics))
  skipped : d.skipped = files

theorem criticalRules_append (findings more : List Finding) :
    criticalRules (findings ++ more) = criticalRules findings ++ criticalRules more := by
  rw [criticalRules, List.filter_append, List.map_append]
  rfl

/-- The draft of skipped files only. -/
theorem holds_skip (files : List SkippedFile) :
    Holds [] files (files.foldl ReportDraft.skip empty) := by
  induction files using List.reverseRecOn with
  | nil => exact ⟨rfl, rfl, rfl, rfl, rfl, rfl⟩
  | append_singleton files file ih =>
    rw [List.foldl_append]
    refine ⟨ih.templatesAnalyzed, ih.templatesWithIssues, ih.findings, ih.critical, ih.metrics, ?_⟩
    exact congrArg (· ++ [file]) ih.skipped

/-- One more analysis is counted in every part. -/
theorem Holds.add (hd : Holds analyses files d) {a : TemplateAnalysis} (hadd : d.add a = .ok d') :
    Holds (analyses ++ [a]) files d' := by
  obtain ⟨time, -, hok⟩ := Answers.bind_eq_ok hadd
  obtain rfl := Except.ok.inj hok
  refine ⟨?_, ?_, ?_, ?_, ?_, hd.skipped⟩
  · simp [hd.templatesAnalyzed]
  · have hone : [a].countP (fun a => !a.issues.isEmpty) = if a.issues.isEmpty then 0 else 1 := by
      cases h : a.issues.isEmpty <;> simp [h]
    rw [List.countP_append, hone, ← hd.templatesWithIssues]
  · rw [List.flatMap_append, ← hd.findings, List.flatMap_singleton]
  · show countAll d.critical (criticalRules a.issues) = tally (criticalRules (d.findings ++ a.issues))
    rw [hd.critical, countAll_tally, criticalRules_append]
    rfl
  · rw [List.map_append, List.map_singleton, Entries.putAll_concat, ← hd.metrics]

/-- The counters of a draft agree with what it gathers. -/
theorem Gathers.holds (hd : Gathers analyses files d) : Holds analyses files d := by
  induction analyses using List.reverseRecOn generalizing d with
  | nil =>
    obtain rfl := Except.ok.inj hd
    exact holds_skip files
  | append_singleton analyses a ih =>
    obtain ⟨before, hbefore, hadd⟩ := hd.concat
    exact (ih hbefore).add hadd

/-- As many critical findings were counted as there are. -/
theorem Holds.counted_critical (hd : Holds analyses files d) :
    counted d.critical = d.criticalCodes.length := by
  rw [hd.critical, counted_tally]

/-! ## A report -/

/-- What a report tells about some analyses and some skipped files. -/
structure Tells (analyses : List TemplateAnalysis) (files : List SkippedFile) (r : Report) :
    Prop where
  templatesAnalyzed : r.templatesAnalyzed = analyses.length
  findings : r.findings = analyses.flatMap (·.issues)
  totalIssues : r.totalIssues = r.findings.length
  criticalIssues : r.criticalIssues = r.findings.countP (·.isCritical)
  templatesWithIssues : r.templatesWithIssues = analyses.countP fun a => !a.issues.isEmpty
  /-- The metrics of a path are those that were added last for it. -/
  metrics : ∀ path, r.metrics.get? path =
    (analyses.reverse.find? fun a => a.path = path).map (·.metrics)
  paths : r.metrics.keys = firstSeen (analyses.map (·.path))
  skipped : r.skipped = files
  score_nonneg : 0 ≤ r.score
  score_le : r.score ≤ 100
  mostCritical : ListsMostFrequent 3 (criticalRules r.findings) r.mostCriticalIssues

/-- A report is made of the parts of its draft. -/
theorem write_eq_ok {h : Heuristics} {r : Report} (hr : d.write h = .ok r) :
    performanceScore h (.int (counted d.critical)) (.int d.findings.length)
        (.real (d.renderTime.roundPlaces 1)) = .ok r.score ∧
      r.templatesAnalyzed = d.templatesAnalyzed ∧ r.findings = d.findings ∧
      r.totalIssues = d.findings.length ∧ r.criticalIssues = counted d.critical ∧
      r.templatesWithIssues = d.templatesWithIssues ∧ r.metrics = d.metrics ∧
      r.skipped = d.skipped ∧ r.mostCriticalIssues = mostFrequent 3 d.critical := by
  obtain ⟨score, hscore, hrest⟩ := Answers.bind_eq_ok hr
  obtain ⟨slow, -, hlast⟩ := Answers.bind_eq_ok hrest
  obtain rfl := Except.ok.inj hlast
  exact ⟨hscore, rfl, rfl, rfl, rfl, rfl, rfl, rfl, rfl⟩

/-- A draft can be written if it has a performance score. -/
theorem write_answers_iff {h : Heuristics} (haccepted : h.accepted = true) (d : ReportDraft) :
    Answers (d.write h) ↔ Answers (performanceScore h (.int (counted d.critical))
      (.int d.findings.length) (.real (d.renderTime.roundPlaces 1))) := by
  have hnumber : h.slowRenderMs.isNumber = true :=
    Heuristics.isNumber_of_accepted haccepted (by simp [Heuristics.thresholds])
  refine Answers.bind_iff_left fun score => ?_
  exact (Answers.bind_iff_left fun _ => Answers.pure _).mpr (Value.isBelow_answers hnumber _)

/-- With integer penalties every draft can be written. -/
theorem write_answers {h : Heuristics} (haccepted : h.accepted = true)
    (hpenalties : h.IntegerPenalties) (d : ReportDraft) : Answers (d.write h) := by
  obtain ⟨g, hg⟩ := Heuristics.exists_gradesBy haccepted hpenalties
  rw [write_answers_iff haccepted, Grading.performanceScore_eq hg]
  exact Answers.ok _

theorem get?_putAll_map (path : Text) (analyses : List TemplateAnalysis) :
    Entries.get? path (Entries.putAll [] (analyses.map fun a => (a.path, a.metrics))) =
      (analyses.reverse.find? fun a => a.path = path).map (·.metrics) := by
  rw [Entries.get?_putAll, ← List.map_reverse]
  induction analyses.reverse with
  | nil => rfl
  | cons a rest ih =>
    rw [List.map_cons, Entries.get?_cons, List.find?_cons]
    by_cases hpath : path = a.path
    · simp [hpath]
    · have hne : ¬ a.path = path := fun heq => hpath heq.symm
      simpa [hpath, hne] using ih

/-- The report of a draft tells the sums over what the draft gathers. -/
theorem Holds.tells (hd : Holds analyses files d) {h : Heuristics} (haccepted : h.accepted = true)
    (hpenalties : h.IntegerPenalties) {r : Report} (hr : d.write h = .ok r) :
    Tells analyses files r := by
  obtain ⟨hscore, hanalyzed, hfindings, htotal, hcritical, hissues, hmetrics, hskipped, hmost⟩ :=
    write_eq_ok hr
  obtain ⟨g, hg⟩ := Heuristics.exists_gradesBy haccepted hpenalties
  have hcount : counted d.critical = d.findings.countP (·.isCritical) := by
    rw [hd.counted_critical, criticalCodes, criticalRules, List.length_map,
      List.countP_eq_length_filter]
  have hfew : counted d.critical ≤ d.findings.length := by
    rw [hcount]
    exact List.countP_le_length
  rw [Grading.performanceScore_eq hg] at hscore
  have hgrade := Except.ok.inj hscore
  refine ⟨hanalyzed.trans hd.templatesAnalyzed, hfindings.trans hd.findings, ?_, ?_,
    hissues.trans hd.templatesWithIssues, ?_, ?_, hskipped.trans hd.skipped, ?_, ?_, ?_⟩
  · rw [htotal, hfindings]
  · rw [hcritical, hcount, hfindings]
  · intro path
    rw [hmetrics, hd.metrics, get?_putAll_map]
  · rw [hmetrics, hd.metrics, Entries.keys_putAll, Entries.keys, List.map_map]
    rfl
  · rw [← hgrade]
    exact Grading.score_nonneg _ _ _
  · rw [← hgrade]
    exact (hg.fair haccepted).score_le (by omega) (by omega) _
  · rw [hmost, hd.critical, hfindings]
    exact mostFrequent_tally 3 d.criticalCodes

/-! ## Many steps -/

/-- What is done with a draft. -/
inductive Step where
  | add (analysis : TemplateAnalysis)
  | skip (file : SkippedFile)
  | write

/-- The analysis that a step adds. -/
def Step.analysis? : Step → Option TemplateAnalysis
  | add a => some a
  | _ => none

/-- The file that a step notes as skipped. -/
def Step.file? : Step → Option SkippedFile
  | skip file => some file
  | _ => none

/-- The step writes a report. -/
def Step.isWrite : Step → Bool
  | write => true
  | _ => false

/-- The analyses that some steps add. -/
def added (steps : List Step) : List TemplateAnalysis := steps.filterMap Step.analysis?

/-- The files that some steps note as skipped. -/
def noted (steps : List Step) : List SkippedFile := steps.filterMap Step.file?

/-- The draft after some steps, and the reports that were written on the way. -/
def run (h : Heuristics) (d : ReportDraft) : List Step → Except Fault (ReportDraft × List Report)
  | [] => .ok (d, [])
  | .add a :: rest => do run h (← d.add a) rest
  | .skip file :: rest => run h (d.skip file) rest
  | .write :: rest => do
    let report ← d.write h
    let (last, reports) ← run h d rest
    pure (last, report :: reports)

variable {h : Heuristics} {steps : List Step} {reports : List Report}

theorem run_write_eq_ok (hrun : run h d (.write :: steps) = .ok (d', reports)) :
    ∃ r later, d.write h = .ok r ∧ run h d steps = .ok (d', later) ∧ reports = r :: later := by
  obtain ⟨r, hr, hrest⟩ := Answers.bind_eq_ok hrun
  obtain ⟨⟨last, later⟩, hlater, hok⟩ := Answers.bind_eq_ok hrest
  obtain ⟨rfl, rfl⟩ := Prod.mk.inj (Except.ok.inj hok)
  exact ⟨r, later, hr, hlater, rfl⟩

/-- Steps stop only where a render time cannot be added. -/
theorem run_answers_iff (haccepted : h.accepted = true) (hpenalties : h.IntegerPenalties) :
    Answers (run h d steps) ↔ ∀ a ∈ added steps, Answers a.renderTime.toReal := by
  induction steps generalizing d with
  | nil => exact ⟨fun _ a ha => absurd ha List.not_mem_nil, fun _ => Answers.ok _⟩
  | cons step rest ih =>
    cases step with
    | add a =>
      rw [run, Answers.bind_iff, show added (.add a :: rest) = a :: added rest from rfl,
        List.forall_mem_cons, ← add_answers_iff (d := d)]
      constructor
      · rintro ⟨next, hadd, hnext⟩
        exact ⟨⟨next, hadd⟩, ih.mp hnext⟩
      · rintro ⟨⟨next, hadd⟩, hrest⟩
        exact ⟨next, hadd, ih.mpr hrest⟩
    | skip file => exact ih
    | write =>
      obtain ⟨r, hr⟩ := write_answers haccepted hpenalties d
      rw [run, hr, Answers.ok_bind_iff, Answers.bind_iff_left fun _ => Answers.pure _]
      exact ih

/-- After any steps a draft gathers what they have added and noted. -/
theorem Gathers.run (hd : Gathers analyses files d) (hrun : run h d steps = .ok (d', reports)) :
    Gathers (analyses ++ added steps) (files ++ noted steps) d' := by
  induction steps generalizing analyses files d reports with
  | nil =>
    obtain ⟨rfl, -⟩ := Prod.mk.inj (Except.ok.inj hrun)
    simpa [added, noted] using hd
  | cons step rest ih =>
    cases step with
    | add a =>
      obtain ⟨next, hadd, hrest⟩ := Answers.bind_eq_ok hrun
      have hlast := ih (hd.add hadd) hrest
      rwa [List.append_assoc] at hlast
    | skip file =>
      have hlast := ih (hd.skip file) hrun
      rwa [List.append_assoc] at hlast
    | write =>
      obtain ⟨r, later, -, hrest, -⟩ := run_write_eq_ok hrun
      exact ih hd hrest

/-- Steps can be done in two goes. -/
theorem run_append {before after : List Step}
    (hrun : ReportDraft.run h d (before ++ after) = .ok (d', reports)) :
    ∃ next earlier later, ReportDraft.run h d before = .ok (next, earlier) ∧
      ReportDraft.run h next after = .ok (d', later) ∧ reports = earlier ++ later := by
  induction before generalizing d reports with
  | nil => exact ⟨d, [], reports, rfl, hrun, rfl⟩
  | cons step rest ih =>
    cases step with
    | add a =>
      obtain ⟨added, hadd, hrest⟩ := Answers.bind_eq_ok hrun
      obtain ⟨next, earlier, later, hbefore, hafter, heq⟩ := ih hrest
      refine ⟨next, earlier, later, ?_, hafter, heq⟩
      rw [ReportDraft.run, hadd]
      exact hbefore
    | skip file => exact ih hrun
    | write =>
      obtain ⟨r, reports, hr, hrest, rfl⟩ := run_write_eq_ok hrun
      obtain ⟨next, earlier, later, hbefore, hafter, rfl⟩ := ih hrest
      refine ⟨next, r :: earlier, later, ?_, hafter, rfl⟩
      rw [ReportDraft.run, hr]
      show (do let (last, reports) ← ReportDraft.run h d rest; pure (last, r :: reports)) = _
      rw [hbefore]
      rfl

/-- One report is written for each step that asks for it. -/
theorem length_reports (hrun : ReportDraft.run h d steps = .ok (d', reports)) :
    reports.length = steps.countP Step.isWrite := by
  induction steps generalizing d reports with
  | nil =>
    obtain ⟨-, rfl⟩ := Prod.mk.inj (Except.ok.inj hrun)
    rfl
  | cons step rest ih =>
    cases step with
    | add a =>
      obtain ⟨next, -, hrest⟩ := Answers.bind_eq_ok hrun
      exact ih hrest
    | skip file => exact ih hrun
    | write =>
      obtain ⟨r, later, -, hrest, rfl⟩ := run_write_eq_ok hrun
      rw [List.length_cons, ih hrest, List.countP_cons_of_pos rfl]

/-- What holds of the reports that some steps write, beginning with the empty draft. -/
structure WritesTrue (h : Heuristics) (steps : List Step) : Prop where
  /-- The steps stop only where a render time cannot be added. -/
  answers : Answers (ReportDraft.run h empty steps) ↔
    ∀ a ∈ added steps, Answers a.renderTime.toReal
  /-- Writing changes nothing, and the two kinds of additions may come in any order. -/
  last : ∀ last reports, ReportDraft.run h empty steps = .ok (last, reports) →
    gather (added steps) (noted steps) = .ok last
  /-- Each step that writes gives one report. -/
  length : ∀ last reports, ReportDraft.run h empty steps = .ok (last, reports) →
    reports.length = steps.countP Step.isWrite
  /-- A report is that of what was added and noted before it, and tells the sums over that. -/
  each : ∀ last reports, ReportDraft.run h empty steps = .ok (last, reports) →
    ∀ before after, steps = before ++ .write :: after →
      ∃ d r, gather (added before) (noted before) = .ok d ∧ d.write h = .ok r ∧
        reports[before.countP Step.isWrite]? = some r ∧ Tells (added before) (noted before) r

/-- **Reports tell the sums over what was added.**  This holds of all steps, in whatever order they
come and however often a report is written on the way. -/
theorem run_writesTrue (haccepted : h.accepted = true) (hpenalties : h.IntegerPenalties)
    (steps : List Step) : WritesTrue h steps where
  answers := run_answers_iff haccepted hpenalties
  last := by
    intro last reports hrun
    exact gathers_empty.run hrun
  length := fun _ _ hrun => length_reports hrun
  each := by
    rintro last reports hrun before after rfl
    obtain ⟨d, earlier, later, hbefore, hafter, rfl⟩ := run_append hrun
    obtain ⟨r, rest, hr, -, rfl⟩ := run_write_eq_ok hafter
    have hgathers : Gathers (added before) (noted before) d := gathers_empty.run hbefore
    refine ⟨d, r, hgathers, hr, ?_, hgathers.holds.tells haccepted hpenalties hr⟩
    rw [← length_reports hbefore, List.getElem?_append_right (Nat.le_refl _), Nat.sub_self]
    rfl

/-- One path added twice with a report in between. -/
theorem run_writesTrue_default :
    let first : TemplateAnalysis :=
      { path := "a", metrics := ⟨⟨1, 0, 0, 0, 0⟩, .int 1, []⟩,
        issues := [{ rule := "n_plus_one", category := .performance, severity := .critical,
                     line := 1, message := "one" }],
        caching := [], optimizations := [], edgeCases := [], partials := [],
        renderTime := Heuristics.real 600 0 }
    let steps : List Step :=
      [.add first, .skip ⟨"b", "too large"⟩, .write, .add { first with issues := [] }, .write]
    Heuristics.default.accepted = true ∧ Heuristics.default.IntegerPenalties ∧
      Answers (ReportDraft.run .default empty steps) ∧ WritesTrue .default steps := by
  intro first steps
  have haccepted : Heuristics.default.accepted = true := by decide +kernel
  have hpenalties := Heuristics.default_gradesBy.integerPenalties
  have hwrites := run_writesTrue haccepted hpenalties steps
  refine ⟨haccepted, hpenalties, hwrites.answers.mpr ?_, hwrites⟩
  have hadded : added steps = [first, { first with issues := [] }] := rfl
  rw [hadded]
  intro a ha
  rcases List.mem_cons.mp ha with rfl | ha
  · exact Answers.ok _
  · obtain rfl := List.mem_singleton.mp ha
    exact Answers.ok _

end ReportDraft
end TemplateLint
