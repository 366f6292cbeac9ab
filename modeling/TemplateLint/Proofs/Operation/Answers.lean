import TemplateLint.Operation.Analyze
import TemplateLint.Operation.Lint
import TemplateLint.Operation.Suggest
import TemplateLint.Proofs.Analysis.Answers
import TemplateLint.Proofs.Report.Draft
import TemplateLint.Proofs.Report.Range
import TemplateLint.Proofs.Rule.Located

/-!
# Operations with an outcome

An operation turns a refusal into an outcome, but not a fault.
-/
namespace TemplateLint

/-- A computation that may be refused has no fault. -/
def Faultless {α : Type} (x : Except Halt α) : Prop := ∀ fault, x ≠ .error (.fault fault)

namespace Faultless

variable {α β : Type}

@[simp] theorem ok (a : α) : Faultless (.ok a : Except Halt α) := by
  intro fault h
  cases h

@[simp] theorem pure (a : α) : Faultless (Pure.pure a : Except Halt α) := ok a

@[simp] theorem failure (reason : Failure) : Faultless (.error (.failure reason) : Except Halt α) := by
  intro fault h
  cases h

@[simp] theorem not_fault (reason : Fault) : ¬ Faultless (.error (.fault reason) : Except Halt α) :=
  fun h => h reason rfl

theorem bind_iff {x : Except Halt α} {f : α → Except Halt β} :
    Faultless (x >>= f) ↔ Faultless x ∧ ∀ a, x = .ok a → Faultless (f a) := by
  match x with
  | .ok a =>
    exact ⟨fun h => ⟨ok a, fun b hb => Except.ok.inj hb ▸ h⟩, fun h => h.2 a rfl⟩
  | .error (.failure reason) =>
    refine ⟨fun _ => ⟨failure reason, fun a ha => ?_⟩, fun _ => failure reason⟩
    cases ha
  | .error (.fault reason) =>
    exact ⟨fun h => absurd h (not_fault reason), fun h => absurd h.1 (not_fault reason)⟩

/-- A step that can only be refused has no fault. -/
theorem lift_failure (x : Except Failure α) : Faultless (liftM x : Except Halt α) := by
  cases x with
  | ok a => exact ok a
  | error reason => exact failure reason

theorem lift_failure_eq_ok {x : Except Failure α} {a : α} :
    (liftM x : Except Halt α) = .ok a ↔ x = .ok a := by
  cases x with
  | ok b => exact ⟨fun h => congrArg _ (Except.ok.inj h), fun h => congrArg _ (Except.ok.inj h)⟩
  | error reason =>
    constructor
    · intro h
      cases h
    · intro h
      cases h

/-- A step that cannot be refused has no fault if it has an answer. -/
theorem lift_fault_iff {x : Except Fault α} : Faultless (liftM x : Except Halt α) ↔ Answers x := by
  cases x with
  | ok a => exact ⟨fun _ => Answers.ok a, fun _ => ok a⟩
  | error reason =>
    exact ⟨fun h => absurd h (not_fault reason), fun h => absurd h (Answers.not_error reason)⟩

theorem lift_fault_eq_ok {x : Except Fault α} {a : α} :
    (liftM x : Except Halt α) = .ok a ↔ x = .ok a := by
  cases x with
  | ok b => exact ⟨fun h => congrArg _ (Except.ok.inj h), fun h => congrArg _ (Except.ok.inj h)⟩
  | error reason =>
    constructor
    · intro h
      cases h
    · intro h
      cases h

/-- A second step that never has a fault does not matter. -/
theorem bind_iff_left {x : Except Halt α} {f : α → Except Halt β} (hf : ∀ a, Faultless (f a)) :
    Faultless (x >>= f) ↔ Faultless x := by
  rw [bind_iff]
  exact and_iff_left fun a _ => hf a

theorem mapM_lift_iff {f : α → Except Fault β} {l : List α} :
    Faultless (l.mapM fun a => (liftM (f a) : Except Halt β)) ↔ ∀ a ∈ l, Answers (f a) := by
  induction l with
  | nil => exact ⟨fun _ a ha => absurd ha List.not_mem_nil, fun _ => ok []⟩
  | cons a l ih =>
    rw [List.mapM_cons, bind_iff, lift_fault_iff, List.forall_mem_cons, ← ih]
    refine and_congr_right fun ⟨b, hb⟩ => ?_
    constructor
    · intro h
      exact (bind_iff_left fun bs => ok (b :: bs)).mp (h b (lift_fault_eq_ok.mpr hb))
    · intro h b _
      exact (bind_iff_left fun bs => ok (b :: bs)).mpr h

/-- An operation has an outcome if its run has no fault. -/
theorem ofRun_answers_iff {x : Except Halt (α × Text)} :
    Answers (Outcome.ofRun x) ↔ Faultless x := by
  match x with
  | .ok (data, note) => exact ⟨fun _ => ok _, fun _ => Answers.ok _⟩
  | .error (.failure reason) => exact ⟨fun _ => failure reason, fun _ => Answers.ok _⟩
  | .error (.fault reason) =>
    exact ⟨fun h => absurd h (Answers.not_error reason), fun h => absurd h (not_fault reason)⟩

end Faultless

/-! ## Gathering templates -/

namespace Collection

/-- The files that are looked at for the templates at a path. -/
def filesAt (w : World) (o : CollectOptions) (root : Path) : List (List Text × List UInt8) :=
  match w.find root with
  | .ok (.file bytes) => [([], bytes)]
  | .ok (.folder entries) => o.eligible (.folder entries)
  | .error _ => []

theorem ofPath_eq (w : World) (o : CollectOptions) (type : Option Text) (given : Text) :
    ofPath w o type .null given =
      resolve w o.viewsRoot given >>= fun root => ofFiles o type root (filesAt w o root) := by
  rw [ofPath, if_pos rfl]
  refine congrArg _ (funext fun root => ?_)
  rw [filesAt]
  cases w.find root with
  | error reason => rfl
  | ok tree => cases tree <;> rfl

/-- The base in which relative paths are looked up is left out or a text. -/
theorem resolve_faultless {w : World} {base : Value} (hbase : base = .null ∨ base.isText = true)
    (given : Text) : Faultless (resolve w base given) := by
  unfold resolve
  cases base with
  | null =>
    dsimp only
    split_ifs
    · exact Faultless.ok _
    · exact Faultless.failure _
    · exact Faultless.failure _
  | text folder =>
    dsimp only
    split_ifs
    · exact Faultless.ok _
    · exact Faultless.failure _
    · exact Faultless.ok _
    · exact Faultless.failure _
  | _ => rcases hbase with hnull | htext <;> contradiction

/-- A file can be visited if its size can be compared with the limit. -/
theorem visit_faultless_iff {o : CollectOptions} {type : Option Text} {path : Path}
    {bytes : List UInt8} {later : Except Halt Collection}
    (hlater : Answers o.maxSize → Faultless later) :
    Faultless (visit o type path bytes later) ↔ Answers o.maxSize := by
  rw [visit, Faultless.bind_iff, Faultless.lift_fault_iff]
  refine and_iff_left_iff_imp.mpr fun hsize limit _ => ?_
  split
  · exact (Faultless.bind_iff_left fun rest => Faultless.ok _).mpr (hlater hsize)
  · refine Faultless.bind_iff.mpr ⟨Faultless.lift_failure _, fun source _ => ?_⟩
    exact (Faultless.bind_iff_left fun rest => Faultless.ok _).mpr (hlater hsize)

/-- Files can be visited if there are none or if the limit of sizes exists. -/
theorem ofFiles_faultless_iff {o : CollectOptions} {type : Option Text} {root : Path}
    {files : List (List Text × List UInt8)} :
    Faultless (ofFiles o type root files) ↔ (files ≠ [] → Answers o.maxSize) := by
  induction files with
  | nil => exact ⟨fun _ hne => absurd rfl hne, fun _ => Faultless.ok empty⟩
  | cons file rest ih =>
    rw [ofFiles, visit_faultless_iff fun hsize => ih.mpr fun _ => hsize]
    exact ⟨fun h _ => h, fun h => h (List.cons_ne_nil file rest)⟩

/-- Nothing stands against gathering the templates at a path or in a text. -/
def Gatherable (w : World) (o : CollectOptions) (given : Text) : Prop :=
  '\n' ∉ given → ∀ root, resolve w o.viewsRoot given = .ok root → filesAt w o root ≠ [] →
    Answers o.maxSize

theorem inline_faultless (text : Text) (type : Option Text) : Faultless (inline text type) :=
  Faultless.bind_iff.mpr ⟨Faultless.lift_failure _, fun _ _ => Faultless.ok _⟩

theorem gather_faultless_iff {w : World} {o : CollectOptions} {type : Option Text} {given : Text}
    (hroot : o.viewsRoot = .null ∨ o.viewsRoot.isText = true) :
    Faultless (gather w o type given) ↔ Gatherable w o given := by
  have hpath : Faultless (ofPath w o type .null given) ↔
      ∀ root, resolve w o.viewsRoot given = .ok root → filesAt w o root ≠ [] →
        Answers o.maxSize := by
    rw [ofPath_eq, Faultless.bind_iff, and_iff_right (resolve_faultless hroot given)]
    exact forall₂_congr fun root _ => ofFiles_faultless_iff
  rw [gather, Gatherable]
  split
  · next hnewline => exact ⟨fun _ hn => absurd hnewline hn, fun _ => inline_faultless given type⟩
  · next hnewline =>
    rw [forall_prop_of_true hnewline, ← hpath]
    split
    · next path hmissing =>
      rw [hmissing]
      refine iff_of_true ?_ (Faultless.failure _)
      split
      · exact inline_faultless given type
      · exact Faultless.failure _
    · rfl

/-- What follows a check and then works on the templates that are gathered. -/
theorem checked_gather_faultless_iff {β : Type} {check : Except Halt Unit} {told accepted : Prop}
    (hfaultless : Faultless check ↔ told) (hok : check = .ok () ↔ accepted) {w : World}
    {o : CollectOptions} {type : Option Text} {given : Text}
    (hroot : o.viewsRoot = .null ∨ o.viewsRoot.isText = true)
    {next : Collection → Except Halt β} :
    Faultless (check >>= fun _ => gather w o type given >>= next) ↔
      told ∧ (accepted → Gatherable w o given) ∧
        (accepted → ∀ c, gather w o type given = .ok c → Faultless (next c)) := by
  rw [Faultless.bind_iff, hfaultless, ← forall_and]
  refine and_congr_right fun _ => ?_
  constructor
  · intro hrest haccepted
    obtain ⟨hgather, hnext⟩ := Faultless.bind_iff.mp (hrest () (hok.mpr haccepted))
    exact ⟨(gather_faultless_iff hroot).mp hgather, hnext⟩
  · intro hrest _ hchecked
    obtain ⟨hgather, hnext⟩ := hrest (hok.mp hchecked)
    exact Faultless.bind_iff.mpr ⟨(gather_faultless_iff hroot).mpr hgather, hnext⟩

end Collection

/-! ## Linting -/

/-- Under a policy and heuristics that may be used, the rules can be checked. -/
theorem Linter.findings_answers {l : Linter} (hpolicy : l.policy.accepted = true)
    (hheuristics : l.heuristics.accepted = true) {fields : Entries Value}
    (hfields : fields.all (·.2.isText) = true) (text : Text) (dialect : Dialect) :
    Answers (l.findings text dialect fields) := by
  rw [findings, fault?_eq_none hpolicy hheuristics text dialect hfields]
  exact Answers.ok _

/-- Options for linting of the kinds that are asked for. -/
structure LintOptions.Accepted (o : LintOptions) : Prop where
  policy : o.policy.accepted = true
  heuristics : o.heuristics.accepted = true
  fields : o.fields.all (·.2.isText) = true

/-- Nothing stands against linting a text. -/
def Lintable (o : LintOptions) (text : Text) : Prop :=
  ∀ dialect, Dialect.classify none text o.type = .ok dialect → o.performance = true →
    TemplateAnalysis.Analyzable o.heuristics {} ⟨inlinePath, dialect, text, Utf8.size text⟩

/-- The default threshold of complexity is a number. -/
private theorem default_threshold_isNumber :
    ({} : AnalysisOptions).complexityThreshold.isNumber = true := rfl

theorem LintResult.ofText_answers_iff {o : LintOptions} (h : o.Accepted) {dialect : Dialect}
    {text : Text} : Answers (ofText o dialect text) ↔ (o.performance = true →
      TemplateAnalysis.Analyzable o.heuristics {} ⟨inlinePath, dialect, text, Utf8.size text⟩) := by
  obtain ⟨found, hfound⟩ := Linter.findings_answers (l := ⟨o.policy, o.heuristics, o.strict⟩)
    h.policy h.heuristics h.fields text dialect
  have hlint : Answers (Linter.lint ⟨o.policy, o.heuristics, o.strict⟩ text dialect o.fields) := by
    rw [Linter.lint, hfound]
    exact Answers.pure _
  obtain ⟨findings, hfindings⟩ := hlint
  rw [ofText, hfindings, Answers.ok_bind_iff]
  dsimp only
  split
  · next hperformance =>
    rw [forall_prop_of_true hperformance,
      ← TemplateAnalysis.ofSource_answers_iff h.heuristics default_threshold_isNumber,
      Answers.bind_iff]
    constructor
    · rintro ⟨performance, hperf, -⟩
      obtain ⟨a, ha, -⟩ := Answers.bind_eq_ok hperf
      exact ⟨a, ha⟩
    · rintro ⟨a, ha⟩
      have hanalyzable := (TemplateAnalysis.ofSource_answers_iff h.heuristics
        default_threshold_isNumber).mp ⟨a, ha⟩
      refine ⟨_, by rw [performanceOf, ha]; rfl, ?_⟩
      refine (Answers.bind_iff_left fun risks => Answers.pure _).mpr ?_
      exact (EdgeCases.detect_answers_iff h.heuristics).mpr hanalyzable.memoryCaps
  · next hperformance => exact ⟨fun _ hp => absurd hp hperformance, fun _ => Answers.pure _⟩

theorem lint_answers_iff {o : LintOptions} (h : o.Accepted) {text : Text} :
    Answers (lint o text) ↔ Lintable o text := by
  rw [lint, Faultless.ofRun_answers_iff, Faultless.bind_iff,
    and_iff_right (Faultless.lift_failure _)]
  refine forall_congr' fun dialect => ?_
  rw [Faultless.lift_failure_eq_ok, Faultless.bind_iff_left fun _ => Faultless.pure _,
    Faultless.lift_fault_iff, LintResult.ofText_answers_iff h]

/-! ## Analyzing -/

namespace AnalysisResult

/-- Nothing stands against a report on the templates of a collection. -/
structure Reportable (h : Heuristics) (o : AnalysisOptions) (c : Collection) : Prop where
  analyzable : ∀ s ∈ c.sources, TemplateAnalysis.Analyzable h o s
  /-- A render time that is made of integers is not too large. -/
  renderTimes : ∀ s ∈ c.sources, ∀ a, TemplateAnalysis.ofSource h o s = .ok a → ∀ n,
    h.wholeTime? a.metrics.counts (Severity.critical.countIn a.issues)
      (Severity.warning.countIn a.issues) = some n → n.natAbs < sizeBound
  /-- What the critical issues, the others and the render time leave of a hundred is finite. -/
  score : ∀ d, draft h o c = .ok d → (h.leftOver d.criticalCodes.length
    (d.findings.length - d.criticalCodes.length) (.real (d.renderTime.roundPlaces 1))).IsFinite

theorem foldlM_add_answers_iff {h : Heuristics} {o : AnalysisOptions} {sources : List TemplateSource}
    {d : ReportDraft} :
    Answers (sources.foldlM (fun d s => do d.add (← TemplateAnalysis.ofSource h o s)) d) ↔
      ∀ s ∈ sources, ∃ a, TemplateAnalysis.ofSource h o s = .ok a ∧ Answers a.renderTime.toReal := by
  induction sources generalizing d with
  | nil => exact ⟨fun _ s hs => absurd hs List.not_mem_nil, fun _ => Answers.ok d⟩
  | cons s rest ih =>
    have hstep : Answers (do d.add (← TemplateAnalysis.ofSource h o s)) ↔
        ∃ a, TemplateAnalysis.ofSource h o s = .ok a ∧ Answers a.renderTime.toReal := by
      rw [Answers.bind_iff]
      exact exists_congr fun a => and_congr_right fun _ => ReportDraft.add_answers_iff
    rw [List.foldlM_cons, List.forall_mem_cons, ← hstep, Answers.bind_iff]
    constructor
    · rintro ⟨d', hd, hrest⟩
      exact ⟨⟨d', hd⟩, ih.mp hrest⟩
    · rintro ⟨⟨d', hd⟩, hrest⟩
      exact ⟨d', hd, ih.mpr hrest⟩

theorem draft_answers_iff {h : Heuristics} (haccepted : h.accepted = true) {o : AnalysisOptions}
    (hthreshold : o.complexityThreshold.isNumber = true) {c : Collection} :
    Answers (draft h o c) ↔ (∀ s ∈ c.sources, TemplateAnalysis.Analyzable h o s) ∧
      ∀ s ∈ c.sources, ∀ a, TemplateAnalysis.ofSource h o s = .ok a →
        Answers a.renderTime.toReal := by
  rw [draft, foldlM_add_answers_iff]
  constructor
  · intro hsources
    refine ⟨fun s hs => ?_, fun s hs a ha => ?_⟩
    · obtain ⟨a, ha, -⟩ := hsources s hs
      exact (TemplateAnalysis.ofSource_answers_iff haccepted hthreshold).mp ⟨a, ha⟩
    · obtain ⟨a', ha', htime⟩ := hsources s hs
      obtain rfl := Except.ok.inj (ha'.symm.trans ha)
      exact htime
  · rintro ⟨hanalyzable, htimes⟩ s hs
    obtain ⟨a, ha⟩ :=
      (TemplateAnalysis.ofSource_answers_iff haccepted hthreshold).mpr (hanalyzable s hs)
    exact ⟨a, ha, htimes s hs a ha⟩

/-- Adding analyses one after another gathers them. -/
theorem exists_gathers {h : Heuristics} {o : AnalysisOptions} {sources : List TemplateSource}
    {analyses : List TemplateAnalysis} {files : List SkippedFile} {d d' : ReportDraft}
    (hd : ReportDraft.Gathers analyses files d)
    (hadded : sources.foldlM (fun d s => do d.add (← TemplateAnalysis.ofSource h o s)) d = .ok d') :
    ∃ all, ReportDraft.Gathers all files d' := by
  induction sources generalizing analyses d with
  | nil =>
    obtain rfl := Except.ok.inj hadded
    exact ⟨analyses, hd⟩
  | cons s rest ih =>
    rw [List.foldlM_cons] at hadded
    obtain ⟨next, hstep, hrest⟩ := Answers.bind_eq_ok hadded
    obtain ⟨a, -, hadd⟩ := Answers.bind_eq_ok hstep
    exact ih (hd.add hadd) hrest

/-- The draft of a collection can be written if it has a performance score. -/
theorem write_draft_answers_iff {h : Heuristics} (haccepted : h.accepted = true)
    {o : AnalysisOptions} {c : Collection} {d : ReportDraft} (hd : draft h o c = .ok d) :
    Answers (d.write h) ↔ (h.leftOver d.criticalCodes.length
      (d.findings.length - d.criticalCodes.length) (.real (d.renderTime.roundPlaces 1))).IsFinite := by
  have hskipped : ReportDraft.Gathers [] c.skipped (c.skipped.foldl ReportDraft.skip .empty) := rfl
  obtain ⟨analyses, hgathers⟩ := exists_gathers hskipped hd
  rw [ReportDraft.write_answers_iff haccepted, hgathers.holds.counted_critical]
  exact performanceScore_answers_iff haccepted

theorem ofCollection_answers_iff {h : Heuristics} (haccepted : h.accepted = true)
    {o : AnalysisOptions} (hthreshold : o.complexityThreshold.isNumber = true) {c : Collection} :
    Answers (ofCollection h o c) ↔ Reportable h o c := by
  constructor
  · intro hof
    obtain ⟨d, hd, hwrite⟩ := Answers.bind_iff.mp hof
    obtain ⟨hanalyzable, htimes⟩ := (draft_answers_iff haccepted hthreshold).mp ⟨d, hd⟩
    refine ⟨hanalyzable, fun s hs a ha =>
      (TemplateAnalysis.renderTime_toReal_answers_iff ha).mp (htimes s hs a ha), fun d' hd' => ?_⟩
    obtain rfl := Except.ok.inj (hd.symm.trans hd')
    exact (write_draft_answers_iff haccepted hd).mp
      ((Answers.bind_iff_left fun _ => Answers.pure _).mp hwrite)
  · rintro ⟨hanalyzable, htimes, hscore⟩
    obtain ⟨d, hd⟩ := (draft_answers_iff haccepted hthreshold).mpr ⟨hanalyzable, fun s hs a ha =>
      (TemplateAnalysis.renderTime_toReal_answers_iff ha).mpr (htimes s hs a ha)⟩
    refine Answers.bind_iff.mpr ⟨d, hd, (Answers.bind_iff_left fun _ => Answers.pure _).mpr ?_⟩
    exact (write_draft_answers_iff haccepted hd).mpr (hscore d hd)

end AnalysisResult

/-- Options for analyzing of the kinds that are asked for. -/
structure AnalyzeOptions.Accepted (o : AnalyzeOptions) : Prop where
  heuristics : o.settings.heuristics.accepted = true
  root : o.settings.collect.viewsRoot = .null ∨ o.settings.collect.viewsRoot.isText = true
  threshold : o.analysis.complexityThreshold.isNumber = true

/-- Nothing stands against analyzing the templates at a path or in a text. -/
structure Reported (w : World) (o : AnalyzeOptions) (given : Text) : Prop where
  /-- A threshold that is refused can be told. -/
  told : o.analysis.accepted = false → Answers o.analysis.complexityThreshold.written
  gathered : o.analysis.accepted = true → Collection.Gatherable w o.settings.collect given
  reportable : o.analysis.accepted = true → ∀ c,
    Collection.gather w o.settings.collect o.type given = .ok c →
      AnalysisResult.Reportable o.settings.heuristics o.analysis c

theorem AnalysisOptions.check_faultless_iff {o : AnalysisOptions}
    (h : o.complexityThreshold.isNumber = true) :
    Faultless o.check ↔ (o.accepted = false → Answers o.complexityThreshold.written) := by
  cases haccepted : o.accepted with
  | true =>
    rw [check, if_pos haccepted]
    refine iff_of_true (Faultless.ok _) fun hrefused => ?_
    cases hrefused
  | false =>
    rw [check, if_neg (by simp [haccepted]), if_pos h,
      Faultless.bind_iff_left fun _ => Faultless.failure _, Faultless.lift_fault_iff]
    exact ⟨fun hw _ => hw, fun hw => hw rfl⟩

/-- Options that are not refused may be used. -/
theorem AnalysisOptions.check_eq_ok_iff {o : AnalysisOptions}
    (h : o.complexityThreshold.isNumber = true) : o.check = .ok () ↔ o.accepted = true := by
  cases haccepted : o.accepted with
  | true =>
    rw [check, if_pos haccepted]
    exact iff_of_true rfl rfl
  | false =>
    rw [check, if_neg (by simp [haccepted]), if_pos h]
    refine iff_of_false (fun hok => ?_) Bool.false_ne_true
    obtain ⟨given, -, hgiven⟩ := Answers.bind_eq_ok hok
    cases hgiven

theorem analyze_answers_iff {w : World} {o : AnalyzeOptions} (h : o.Accepted) {given : Text} :
    Answers (analyze w o given) ↔
      ∀ type, Dialect.ofType o.type = .ok type → Reported w o given := by
  rw [analyze, Faultless.ofRun_answers_iff, Faultless.bind_iff,
    and_iff_right (Faultless.lift_failure _)]
  refine forall_congr' fun type => ?_
  rw [Faultless.lift_failure_eq_ok]
  refine imp_congr_right fun _ => ?_
  -- the report is what can fail once the templates are gathered
  have hcollection : ∀ c, Faultless (do
      let result ← AnalysisResult.ofCollection o.settings.heuristics o.analysis c
      pure (result, noteFor c) : Except Halt (AnalysisResult × Text)) ↔
        AnalysisResult.Reportable o.settings.heuristics o.analysis c := by
    intro c
    rw [Faultless.bind_iff_left fun _ => Faultless.pure _, Faultless.lift_fault_iff,
      AnalysisResult.ofCollection_answers_iff h.heuristics h.threshold]
  rw [Collection.checked_gather_faultless_iff (AnalysisOptions.check_faultless_iff h.threshold)
    (AnalysisOptions.check_eq_ok_iff h.threshold) h.root]
  constructor
  · rintro ⟨htold, hgathered, hrest⟩
    exact ⟨htold, hgathered, fun haccepted c hc => (hcollection c).mp (hrest haccepted c hc)⟩
  · intro hreported
    refine ⟨hreported.told, hreported.gathered, fun haccepted c hc => ?_⟩
    exact (hcollection c).mpr (hreported.reportable haccepted c hc)

/-! ## Suggesting -/

/-- Options for suggestions of the kinds that are asked for. -/
structure SuggestOptions.Accepted (o : SuggestOptions) : Prop where
  policy : o.settings.policy.accepted = true
  heuristics : o.settings.heuristics.accepted = true
  root : o.settings.collect.viewsRoot = .null ∨ o.settings.collect.viewsRoot.isText = true
  focus : o.focus.isText = true
  limit : o.limit = .null ∨ ∃ n : Int, o.limit = .number (.int n)

/-- The limit is below zero. -/
def SuggestOptions.RefusesLimit (o : SuggestOptions) : Prop :=
  ∃ n : Int, o.limit = .number (.int n) ∧ n < 0

/-- Nothing stands against planning optimizations of the templates at a path or in a text. -/
structure Planned (w : World) (o : SuggestOptions) (given : Text) : Prop where
  /-- A limit that is refused can be told. -/
  told : o.RefusesLimit → Answers o.limit.written
  gathered : ¬ o.RefusesLimit → Collection.Gatherable w o.settings.collect given
  analyzable : ¬ o.RefusesLimit → ∀ c,
    Collection.gather w o.settings.collect o.type given = .ok c →
      ∀ s ∈ c.sources, TemplateAnalysis.Analyzable o.settings.heuristics {} s

namespace SuggestOptions

variable {o : SuggestOptions}

/-- A limit that is left out is not refused. -/
theorem not_refusesLimit_of_null (h : o.limit = .null) : ¬ o.RefusesLimit := by
  rintro ⟨n, hn, -⟩
  rw [h] at hn
  cases hn

theorem refusesLimit_iff {n : Int} (h : o.limit = .number (.int n)) : o.RefusesLimit ↔ n < 0 := by
  constructor
  · rintro ⟨m, hm, hlt⟩
    rw [h] at hm
    cases hm
    exact hlt
  · exact fun hlt => ⟨n, h, hlt⟩

/-- An integer is refused as a limit if it is below zero. -/
theorem checkLimit_int (n : Int) : checkLimit (.number (.int n)) =
    if n < 0 then do
      let given ← Value.written (.number (.int n))
      .error (.failure (.refusedSetting "max_suggestions" given "must be non-negative"))
    else .ok () := by
  have hlt : (Number.int n).lt 0 = decide (n < 0) := rfl
  rw [checkLimit, if_neg (by simp)]
  simp only [Value.toNumber?, hlt, decide_eq_true_eq]

theorem checkLimit_faultless_iff (h : o.Accepted) :
    Faultless (checkLimit o.limit) ↔ (o.RefusesLimit → Answers o.limit.written) := by
  rcases h.limit with hlimit | ⟨n, hlimit⟩
  · rw [hlimit]
    exact iff_of_true (Faultless.ok ()) fun hr => absurd hr (not_refusesLimit_of_null hlimit)
  · rw [refusesLimit_iff hlimit, hlimit, checkLimit_int]
    split
    · next hlt =>
      rw [Faultless.bind_iff_left fun _ => Faultless.failure _, Faultless.lift_fault_iff,
        forall_prop_of_true hlt]
    · next hge => exact iff_of_true (Faultless.ok ()) fun hlt => absurd hlt hge

theorem checkLimit_eq_ok_iff (h : o.Accepted) :
    checkLimit o.limit = .ok () ↔ ¬ o.RefusesLimit := by
  rcases h.limit with hlimit | ⟨n, hlimit⟩
  · rw [hlimit]
    exact iff_of_true rfl (not_refusesLimit_of_null hlimit)
  · rw [refusesLimit_iff hlimit, hlimit, checkLimit_int]
    split
    · next hlt =>
      refine iff_of_false (fun hok => ?_) (not_not_intro hlt)
      obtain ⟨given, -, hgiven⟩ := Answers.bind_eq_ok hok
      cases hgiven
    · next hge => exact iff_of_true rfl hge

theorem limitOf_answers (h : o.Accepted) : Answers (Suggestion.limitOf o.limit) := by
  rcases h.limit with hlimit | ⟨n, hlimit⟩
  · rw [hlimit]
    exact Answers.ok none
  · rw [hlimit]
    exact Answers.ok (some n)

end SuggestOptions

/-- A text is a focus or refused. -/
theorem Focus.ofValue_faultless {given : Value} (h : given.isText = true) :
    Faultless (ofValue given) := by
  obtain ⟨text, htext⟩ := Option.isSome_iff_exists.mp h
  cases given with
  | text t =>
    unfold ofValue
    dsimp only [Value.keyFault?]
    split
    · exact Faultless.ok _
    · exact Faultless.failure _
  | _ => cases htext

theorem findingsOf_answers_iff {s : Settings} (hpolicy : s.policy.accepted = true)
    (hheuristics : s.heuristics.accepted = true) {source : TemplateSource} :
    Answers (findingsOf s source) ↔ TemplateAnalysis.Analyzable s.heuristics {} source := by
  have hfields : ([] : Entries Value).all (·.2.isText) = true := rfl
  have hfound := Linter.findings_answers (l := ⟨s.policy, s.heuristics, false⟩) hpolicy hheuristics
    hfields source.text source.dialect
  rw [findingsOf, ← TemplateAnalysis.ofSource_answers_iff hheuristics default_threshold_isNumber]
  refine Answers.bind_iff_left fun a => ?_
  exact (Answers.bind_iff_left fun _ => Answers.pure _).mpr hfound

theorem suggest_answers_iff {w : World} {o : SuggestOptions} (h : o.Accepted) {given : Text} :
    Answers (suggest w o given) ↔ ∀ focus type, Focus.ofValue o.focus = .ok focus →
      Dialect.ofType o.type = .ok type → Planned w o given := by
  rw [suggest, Faultless.ofRun_answers_iff, Faultless.bind_iff,
    and_iff_right (Focus.ofValue_faultless h.focus)]
  refine forall_congr' fun focus => ?_
  rw [forall_comm]
  refine imp_congr_right fun _ => ?_
  rw [Faultless.bind_iff, and_iff_right (Faultless.lift_failure _)]
  refine forall_congr' fun type => ?_
  rw [Faultless.lift_failure_eq_ok]
  refine imp_congr_right fun _ => ?_
  obtain ⟨limit, hlimit⟩ := SuggestOptions.limitOf_answers h
  rw [hlimit]
  -- the analyses are what can fail once the templates are gathered
  have hplan : ∀ c, Faultless (do
      let findings ← c.sources.mapM fun source => findingsOf o.settings source
      let limit ← (Except.ok limit : Except Fault (Option Int))
      let plan := Plan.ofFindings Text.digest ⟨focus, o.examples, o.prioritize, limit⟩
        c.sources.length c.skipped findings.flatten
      pure (plan, noteFor c) : Except Halt (Plan × Text)) ↔
        ∀ s ∈ c.sources, TemplateAnalysis.Analyzable o.settings.heuristics {} s := by
    intro c
    rw [Faultless.bind_iff_left fun findings => ?_, Faultless.mapM_lift_iff]
    · exact forall₂_congr fun s _ => findingsOf_answers_iff h.policy h.heuristics
    · rw [Faultless.bind_iff_left fun _ => Faultless.pure _, Faultless.lift_fault_iff]
      exact Answers.ok limit
  rw [Collection.checked_gather_faultless_iff (SuggestOptions.checkLimit_faultless_iff h)
    (SuggestOptions.checkLimit_eq_ok_iff h) h.root]
  constructor
  · rintro ⟨htold, hgathered, hrest⟩
    exact ⟨htold, hgathered, fun haccepted c hc => (hplan c).mp (hrest haccepted c hc)⟩
  · intro hplanned
    refine ⟨hplanned.told, hplanned.gathered, fun haccepted c hc => ?_⟩
    exact (hplan c).mpr (hplanned.analyzable haccepted c hc)

/-! ## All operations -/

/-- The default policy and heuristics may be used. -/
theorem defaults_accepted :
    Policy.default.accepted = true ∧ Heuristics.default.accepted = true := by
  decide +kernel

end TemplateLint
