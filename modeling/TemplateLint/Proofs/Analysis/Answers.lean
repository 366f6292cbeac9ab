import TemplateLint.Analysis.Template
import TemplateLint.Proofs.Answers

/-!
# Analyses with an answer

Under heuristics that may be used, most detectors always have an answer.  The others fail for reasons
of four kinds: a cap with too many digits to be read, the first of some matches where there is none, a
number with too many digits to be told, and arithmetic that leaves the range of the numbers.
`Analyzable` names every one of them, and an analysis has an answer if and only if none applies
(`ofSource_answers_iff`).
-/
namespace TemplateLint

variable {ctx : AnalysisContext}

/-! ## Detectors of loops -/

namespace LoopDetectors

theorem spellings_answers {names : List Value} (h : names.all (·.isText) = true) :
    Answers (spellings names) := by
  induction names with
  | nil => exact Answers.ok []
  | cons v rest ih =>
    rw [List.all_cons, Bool.and_eq_true] at h
    cases v with
    | text name => exact Answers.map_iff.mpr (ih h.2)
    | _ => cases h.1

theorem hasMarker_answers (opener : Text) {markers : List Value}
    (h : markers.all (·.isText) = true) : Answers (hasMarker opener markers) := by
  induction markers with
  | nil => exact Answers.ok false
  | cons v rest ih =>
    rw [List.all_cons, Bool.and_eq_true] at h
    cases v with
    | text marker =>
      rw [hasMarker]
      split
      · exact Answers.ok true
      · exact ih h.2
    | _ => cases h.1

theorem relationshipIn_answers (h : ctx.heuristics.accepted = true) (names : List Text)
    (b : Block) : Answers (relationshipIn ctx names b) := by
  rw [relationshipIn]
  split
  · exact Answers.pure []
  · obtain ⟨marked, hmarked⟩ := hasMarker_answers b.opener.text (Heuristics.names_of_accepted h).2
    refine Answers.bind_iff.mpr ⟨marked, hmarked, ?_⟩
    split
    · exact Answers.pure []
    · dsimp only
      split
      · exact Answers.pure []
      · exact Answers.pure _

theorem relationships_answers (h : ctx.heuristics.accepted = true) :
    Answers (relationships ctx) := by
  rw [relationships]
  split
  · exact Answers.pure []
  · refine Answers.bind_iff.mpr ?_
    obtain ⟨names, hnames⟩ := spellings_answers (Heuristics.names_of_accepted h).1
    exact ⟨names, hnames, Answers.gather_iff.mpr fun b _ => relationshipIn_answers h names b⟩

/-- The cap of an opener can be read. -/
def CapReadable (dialect : Dialect) (opener : Text) : Prop :=
  ∀ m, (if dialect = .blade then bladeCap else antlersCap).find? opener = some m →
    (m.group 1).length ≤ digitLimit

theorem itemCap_answers_iff {dialect : Dialect} {opener : Text} :
    Answers (itemCap dialect opener) ↔ CapReadable dialect opener := by
  rw [itemCap, CapReadable]
  split
  · next hnone =>
    refine ⟨fun _ m hm => ?_, fun _ => Answers.ok none⟩
    rw [hnone] at hm
    cases hm
  · next found hfound =>
    rw [Answers.map_iff, readDigits_answers_iff, hfound]
    exact ⟨fun h m hm => Option.some.inj hm ▸ h, fun h => h found rfl⟩

theorem unpaginatedIn_answers_iff (h : ctx.heuristics.accepted = true) {b : Block} :
    Answers (unpaginatedIn ctx b) ↔ CapReadable ctx.dialect b.opener.text := by
  rw [unpaginatedIn, ← itemCap_answers_iff]
  refine Answers.bind_iff_left fun cap => ?_
  cases cap with
  | none => exact Answers.pure []
  | some cap =>
    have hnumber : ctx.heuristics.paginationThreshold.isNumber = true :=
      Heuristics.isNumber_of_accepted h (by simp [Heuristics.thresholds])
    refine exceeds_bind_answers hnumber fun b => ?_
    split
    · split
      · exact Answers.pure []
      · exact Answers.pure _
    · exact Answers.pure []

theorem unpaginated_answers_iff (h : ctx.heuristics.accepted = true) :
    Answers (unpaginated ctx) ↔ ∀ b ∈ ctx.loops, CapReadable ctx.dialect b.opener.text := by
  rw [unpaginated, Answers.gather_iff]
  exact forall₂_congr fun b _ => unpaginatedIn_answers_iff h

end LoopDetectors

/-! ## Detectors of issues -/

namespace Issues

/-- The first of some matches is told if there are more than a threshold.  Without a match the
threshold must not be exceeded. -/
theorem exceeds_first_answers_iff {found : List Match} {threshold : Value}
    (h : threshold.isNumber = true) {tell : Match → List Finding} :
    Answers (exceeds found.length threshold >>= fun many =>
        if many = true then first found >>= fun m => pure (tell m) else pure []) ↔
      (found = [] → threshold.AllowsNone) := by
  rw [exceeds_bind_iff h (Answers.pure [])]
  cases found with
  | nil =>
    obtain ⟨b, hb⟩ := Value.isExceededBy_answers h 0
    have hexceeds : exceeds ([] : List Match).length threshold = .ok b := hb
    rw [hexceeds, Value.AllowsNone, hb]
    cases b with
    | false => exact ⟨fun _ _ => rfl, fun _ hb => absurd (Except.ok.inj hb) Bool.false_ne_true⟩
    | true =>
      refine ⟨fun hfirst => absurd (hfirst rfl) (Answers.not_error _), fun hnone => ?_⟩
      exact absurd (Except.ok.inj (hnone rfl)).symm Bool.false_ne_true
  | cons m more =>
    exact ⟨fun _ hnil => absurd hnil (List.cons_ne_nil m more), fun _ _ => Answers.pure _⟩

theorem excessivePartials_answers_iff (h : ctx.heuristics.accepted = true) :
    Answers (excessivePartials ctx) ↔
      ∀ s, ctx.dialect.structure? = some s → s.inclusion.findAll ctx.text = [] →
        ctx.heuristics.excessivePartials.AllowsNone := by
  have hnumber : ctx.heuristics.excessivePartials.isNumber = true :=
    Heuristics.isNumber_of_accepted h (by simp [Heuristics.thresholds])
  rw [excessivePartials]
  split
  · next hnone =>
    refine ⟨fun _ s hs => ?_, fun _ => Answers.pure []⟩
    rw [hnone] at hs
    cases hs
  · next s hs =>
    rw [exceeds_first_answers_iff hnumber]
    refine ⟨fun hnil t ht => ?_, fun hall => hall s hs⟩
    rw [hs] at ht
    exact Option.some.inj ht ▸ hnil

theorem complexConditionals_answers (h : ctx.heuristics.accepted = true) :
    Answers (complexConditionals ctx) := by
  have hnumber : ctx.heuristics.complexConditionalOperators.isNumber = true :=
    Heuristics.isNumber_of_accepted h (by simp [Heuristics.thresholds])
  refine Answers.gather_iff.mpr fun c _ => exceeds_bind_answers hnumber fun many => ?_
  split
  · exact Answers.pure _
  · exact Answers.pure []

theorem inlineCode_answers (h : ctx.heuristics.accepted = true) : Answers (inlineCode ctx) := by
  have hnumber : ctx.heuristics.inlinePhpChars.isNumber = true :=
    Heuristics.isNumber_of_accepted h (by simp [Heuristics.thresholds])
  rw [inlineCode]
  split
  · refine Answers.gather_iff.mpr fun m _ => exceeds_bind_answers hnumber fun large => ?_
    split
    · exact Answers.pure _
    · exact Answers.pure []
  · exact Answers.ok []

theorem uncachedDynamic_answers_iff (h : ctx.heuristics.accepted = true) :
    Answers (uncachedDynamic ctx) ↔
      (dynamicValue.findAll ctx.text = [] → ctx.heuristics.dynamicValueCount.AllowsNone) := by
  have hnumber : ctx.heuristics.dynamicValueCount.isNumber = true :=
    Heuristics.isNumber_of_accepted h (by simp [Heuristics.thresholds])
  rw [uncachedDynamic, exceeds_first_answers_iff hnumber]

end Issues

/-! ## Detectors of optimizations -/

namespace Optimizations

theorem firstLarge_answers {threshold : Value} (h : threshold.isNumber = true)
    (found : List Match) : Answers (firstLarge threshold found) := by
  induction found with
  | nil => exact Answers.ok none
  | cons m more ih =>
    refine exceeds_bind_answers h fun large => ?_
    split
    · exact Answers.pure _
    · exact ih

theorem largeBlock_answers (h : ctx.heuristics.accepted = true) (rule : Text) (pattern : Pattern)
    (label target : Text) : Answers (largeBlock ctx rule pattern label target) := by
  have hnumber : ctx.heuristics.inlineBlockChars.isNumber = true :=
    Heuristics.isNumber_of_accepted h (by simp [Heuristics.thresholds])
  obtain ⟨found, hfound⟩ := firstLarge_answers hnumber (pattern.findAll ctx.text)
  refine Answers.bind_iff.mpr ⟨found, hfound, ?_⟩
  cases found with
  | none => exact Answers.pure []
  | some m => exact Answers.pure _

theorem externalAssets_answers (h : ctx.heuristics.accepted = true) :
    Answers (externalAssets ctx) := by
  refine (Answers.bind_iff_left fun styles => ?_).mpr (largeBlock_answers h _ _ _ _)
  refine (Answers.bind_iff_left fun scripts => ?_).mpr (largeBlock_answers h _ _ _ _)
  exact Answers.pure (styles ++ scripts)

theorem longTemplate_answers (h : ctx.heuristics.accepted = true) :
    Answers (longTemplate ctx) := by
  have hnumber : ctx.heuristics.longTemplateLines.isNumber = true :=
    Heuristics.isNumber_of_accepted h (by simp [Heuristics.thresholds])
  refine exceeds_bind_answers hnumber fun long => ?_
  split
  · exact Answers.pure _
  · exact Answers.pure []

theorem repeatedMarkup_answers (h : ctx.heuristics.accepted = true) :
    Answers (repeatedMarkup ctx) := by
  have hnumber : ctx.heuristics.repeatedMarkupCount.isNumber = true :=
    Heuristics.isNumber_of_accepted h (by simp [Heuristics.thresholds])
  refine Answers.gather_iff.mpr fun use _ => exceeds_bind_answers hnumber fun many => ?_
  split
  · exact Answers.pure _
  · exact Answers.pure []

theorem styleAttributes_answers_iff (h : ctx.heuristics.accepted = true) :
    Answers (styleAttributes ctx) ↔
      (styleAttribute.findAll ctx.text = [] →
        ctx.heuristics.inlineStyleAttributes.AllowsNone) := by
  have hnumber : ctx.heuristics.inlineStyleAttributes.isNumber = true :=
    Heuristics.isNumber_of_accepted h (by simp [Heuristics.thresholds])
  rw [styleAttributes, Issues.exceeds_first_answers_iff hnumber]

/-- The strings of a template with the number of times that each occurs. -/
def stringCounts (text : Text) : Entries Nat :=
  tally ((stringLiteral.findAll text).map (·.group 1))

/-- Something is more frequent than a threshold if one of the counts is. -/
theorem moreFrequent_spec {threshold : Value} (h : threshold.isNumber = true)
    (counts : Entries Nat) :
    ∃ found, moreFrequent threshold counts = .ok found ∧
      (found ≠ [] ↔ ∃ e ∈ counts, threshold.isBelow (.int e.2) = .ok true) := by
  -- every count is compared, also behind one that is more frequent
  induction counts with
  | nil => exact ⟨[], rfl, by simp⟩
  | cons e more ih =>
    obtain ⟨value, count⟩ := e
    obtain ⟨b, hb⟩ := Value.isBelow_answers h (.int count)
    obtain ⟨found, hfound, hne⟩ := ih
    refine ⟨if b = true then value :: found else found, ?_, ?_⟩
    · rw [moreFrequent, hb, hfound]
      rfl
    · cases b with
      | false => simpa [hb] using hne
      | true => simp [hb]

/-- Repeated strings are told with the threshold, so it has to be written if there is one. -/
theorem repeatedStrings_answers_iff (h : ctx.heuristics.accepted = true) :
    Answers (repeatedStrings ctx) ↔
      ((∃ e ∈ stringCounts ctx.text,
          ctx.heuristics.repeatedStringCount.isBelow (.int e.2) = .ok true) →
        Answers ctx.heuristics.repeatedStringCount.written) := by
  have hnumber : ctx.heuristics.repeatedStringCount.isNumber = true :=
    Heuristics.isNumber_of_accepted h (by simp [Heuristics.thresholds])
  obtain ⟨found, hfound, hne⟩ := moreFrequent_spec hnumber (stringCounts ctx.text)
  rw [repeatedStrings]
  show Answers (moreFrequent _ (stringCounts ctx.text) >>= _) ↔ _
  rw [hfound, ← hne, Answers.ok_bind_iff]
  dsimp only
  split
  · next hsorted =>
    have hnil : found = [] := by
      rw [← List.length_eq_zero_iff, ← List.length_mergeSort found, hsorted, List.length_nil]
    exact ⟨fun _ hf => absurd hnil hf, fun _ => Answers.pure []⟩
  · next s more hsorted =>
    have hcons : found ≠ [] := by
      rintro rfl
      rw [List.mergeSort_nil] at hsorted
      cases hsorted
    rw [Answers.bind_iff_left fun limit => Answers.pure _]
    exact ⟨fun hw _ => hw, fun hw => hw hcons⟩

end Optimizations

/-! ## Risks -/

namespace EdgeCases

/-- The caps of a template can be read, up to the first one above a threshold. -/
def CapsReadable (threshold : Value) (caps : List Match) : Prop :=
  ∀ before m after, caps = before ++ m :: after →
    (∀ e ∈ before, threshold.isBelow (.int (digitsValue (e.group 1))) = .ok false) →
      (m.group 1).length ≤ digitLimit

theorem capsReadable_nil (threshold : Value) : CapsReadable threshold [] := by
  intro before m after h
  exact absurd h.symm (List.append_ne_nil_of_right_ne_nil before (List.cons_ne_nil m after))

/-- A cap has to be read, and the caps behind it if it is not above the threshold. -/
theorem capsReadable_cons_iff {threshold : Value} {m : Match} {more : List Match} :
    CapsReadable threshold (m :: more) ↔ (m.group 1).length ≤ digitLimit ∧
      (threshold.isBelow (.int (digitsValue (m.group 1))) = .ok false →
        CapsReadable threshold more) := by
  constructor
  · intro h
    refine ⟨h [] m more rfl fun e he => absurd he List.not_mem_nil, ?_⟩
    intro hm before e after hmore hbefore
    refine h (m :: before) e after (by rw [hmore]; rfl) ?_
    exact List.forall_mem_cons.mpr ⟨hm, hbefore⟩
  · rintro ⟨hm, hmore⟩ before e after hcaps hbefore
    cases before with
    | nil =>
      obtain ⟨rfl, -⟩ := List.cons.inj hcaps
      exact hm
    | cons first before =>
      obtain ⟨rfl, hrest⟩ := List.cons.inj hcaps
      obtain ⟨hfirst, hbefore⟩ := List.forall_mem_cons.mp hbefore
      exact hmore hfirst before e after hrest hbefore

theorem firstExcess_answers_iff {threshold : Value} (h : threshold.isNumber = true)
    {caps : List Match} : Answers (firstExcess threshold caps) ↔ CapsReadable threshold caps := by
  induction caps with
  | nil => exact ⟨fun _ => capsReadable_nil threshold, fun _ => Answers.ok none⟩
  | cons m more ih =>
    rw [capsReadable_cons_iff, ← ih, firstExcess]
    -- a cap is read before it is compared, and the caps behind it only if it is not above
    by_cases hshort : (m.group 1).length ≤ digitLimit
    · obtain ⟨b, hb⟩ := Value.isBelow_answers h (.int (digitsValue (m.group 1)))
      have hread : readDigits (m.group 1) = .ok (digitsValue (m.group 1)) :=
        if_neg (Nat.not_lt.mpr hshort)
      rw [hread, Answers.ok_bind_iff, hb, Answers.ok_bind_iff]
      cases b with
      | false => exact ⟨fun hmore => ⟨hshort, fun _ => hmore⟩, fun hmore => hmore.2 rfl⟩
      | true =>
        refine ⟨fun _ => ⟨hshort, fun hb => ?_⟩, fun _ => Answers.pure _⟩
        exact absurd (Except.ok.inj hb).symm Bool.false_ne_true
    · refine ⟨fun hfirst => ?_, fun hmore => absurd hmore.1 hshort⟩
      obtain ⟨cap, hcap, -⟩ := Answers.bind_iff.mp hfirst
      exact absurd (readDigits_answers_iff.mp ⟨cap, hcap⟩) hshort

theorem detect_answers_iff {h : Heuristics} (haccepted : h.accepted = true) {dialect : Dialect}
    {text : Text} {path : Option Text} :
    Answers (detect dialect text path h) ↔
      CapsReadable h.memoryLimitThreshold (itemCap.findAll text) := by
  have hnumber : h.memoryLimitThreshold.isNumber = true :=
    Heuristics.isNumber_of_accepted haccepted (by simp [Heuristics.thresholds])
  rw [detect, Answers.bind_iff_left fun risks => Answers.pure _, memory,
    Answers.bind_iff_left fun found => ?_, firstExcess_answers_iff hnumber]
  cases found with
  | none => exact Answers.pure []
  | some found => exact Answers.pure _

end EdgeCases

/-! ## Analyses -/

namespace TemplateAnalysis

/-- The detectors of issues have an answer if the caps of the loops can be read, and if no threshold
is exceeded where there is nothing to tell. -/
theorem runAll_issueDetectors_iff (h : ctx.heuristics.accepted = true) {o : AnalysisOptions} :
    Answers (runAll (issueDetectors o) ctx) ↔
      (o.analyzeLoops = true →
        ∀ b ∈ ctx.loops, LoopDetectors.CapReadable ctx.dialect b.opener.text) ∧
      (∀ s, ctx.dialect.structure? = some s → s.inclusion.findAll ctx.text = [] →
        ctx.heuristics.excessivePartials.AllowsNone) ∧
      (Issues.dynamicValue.findAll ctx.text = [] →
        ctx.heuristics.dynamicValueCount.AllowsNone) := by
  have hrelationships : ∀ detect ∈ (if o.checkRelationships then
      [LoopDetectors.relationships, fun ctx => .ok (LoopDetectors.queries ctx)] else [] :
      List Detector), Answers (detect ctx) := by
    split
    · simp only [List.forall_mem_cons, List.not_mem_nil, false_implies, implies_true, Answers.ok,
        LoopDetectors.relationships_answers h, and_self]
    · exact List.forall_mem_nil _
  have hloops : (∀ detect ∈ (if o.analyzeLoops then
      [fun ctx => .ok (LoopDetectors.nests ctx), LoopDetectors.unpaginated] else [] :
      List Detector), Answers (detect ctx)) ↔ (o.analyzeLoops = true →
        ∀ b ∈ ctx.loops, LoopDetectors.CapReadable ctx.dialect b.opener.text) := by
    split
    · next hlook =>
      simp only [List.forall_mem_cons, List.not_mem_nil, false_implies, implies_true, Answers.ok,
        LoopDetectors.unpaginated_answers_iff h, hlook, true_and, and_true, true_implies]
    · next hlook => exact ⟨fun _ hl => absurd hl hlook, fun _ => List.forall_mem_nil _⟩
  rw [runAll, Answers.gather_iff, issueDetectors, List.forall_mem_append, List.forall_mem_append,
    and_iff_right hrelationships, hloops, Issues.detectors]
  simp only [List.forall_mem_cons, List.not_mem_nil, false_implies, implies_true, Answers.ok,
    Issues.excessivePartials_answers_iff h, Issues.complexConditionals_answers h,
    Issues.inlineCode_answers h, Issues.uncachedDynamic_answers_iff h, true_and, and_true]

/-- The detectors of optimizations have an answer if the threshold of style attributes is not exceeded
where there are none, and if the threshold of repeated strings can be told. -/
theorem runAll_optimizations_iff (h : ctx.heuristics.accepted = true) :
    Answers (runAll Optimizations.detectors ctx) ↔
      (Optimizations.styleAttribute.findAll ctx.text = [] →
        ctx.heuristics.inlineStyleAttributes.AllowsNone) ∧
      ((∃ e ∈ Optimizations.stringCounts ctx.text,
          ctx.heuristics.repeatedStringCount.isBelow (.int e.2) = .ok true) →
        Answers ctx.heuristics.repeatedStringCount.written) := by
  rw [runAll, Answers.gather_iff, Optimizations.detectors]
  simp only [List.forall_mem_cons, Answers.ok, Optimizations.externalAssets_answers h,
    Optimizations.longTemplate_answers h, Optimizations.repeatedMarkup_answers h,
    Optimizations.styleAttributes_answers_iff h, Optimizations.repeatedStrings_answers_iff h,
    List.not_mem_nil, false_implies, implies_true, true_and, and_true]

theorem factors_answers {h : Heuristics} (haccepted : h.accepted = true) (a : Amounts) :
    Answers (a.factors h) := by
  have hfactor : ∀ {amount : Number} {threshold : Value} {label closing : Text},
      threshold ∈ h.thresholds → Answers (Amounts.factor amount threshold label closing) := by
    intro amount threshold label closing hmem
    have hnumber := Heuristics.isNumber_of_accepted haccepted hmem
    refine (Answers.bind_iff_left fun exceeded => ?_).mpr (Value.isBelow_answers hnumber amount)
    split
    · exact Answers.pure _
    · exact Answers.pure []
  rw [Amounts.factors]
  refine (Answers.bind_iff_left fun tags => ?_).mpr (hfactor (by simp [Heuristics.thresholds]))
  refine (Answers.bind_iff_left fun conditionals => ?_).mpr
    (hfactor (by simp [Heuristics.thresholds]))
  refine (Answers.bind_iff_left fun loops => ?_).mpr (hfactor (by simp [Heuristics.thresholds]))
  refine (Answers.bind_iff_left fun lines => ?_).mpr (hfactor (by simp [Heuristics.thresholds]))
  refine (Answers.bind_iff_left fun inclusions => ?_).mpr
    (hfactor (by simp [Heuristics.thresholds]))
  exact Answers.pure _

/-- A template whose score exists has metrics with the rounded score. -/
theorem metrics_of_score {h : Heuristics} (haccepted : h.accepted = true) {dialect : Dialect}
    {text : Text} {score : Number}
    (hscore : (Counts.ofText dialect text).amounts.score h = .ok score) :
    ∃ m, Metrics.ofText dialect text h = .ok m ∧ m.score = score.round 2 := by
  obtain ⟨factors, hfactors⟩ := factors_answers haccepted (Counts.ofText dialect text).amounts
  refine ⟨⟨Counts.ofText dialect text, score.round 2, factors⟩, ?_, rfl⟩
  rw [Metrics.ofText, hscore, hfactors]
  rfl

/-- Metrics hold the rounded score. -/
theorem score_of_metrics {h : Heuristics} {dialect : Dialect} {text : Text} {m : Metrics}
    (hm : Metrics.ofText dialect text h = .ok m) :
    ∃ score, (Counts.ofText dialect text).amounts.score h = .ok score ∧
      m.score = score.round 2 := by
  obtain ⟨score, hscore, hm⟩ := Answers.bind_eq_ok hm
  obtain ⟨factors, -, hm⟩ := Answers.bind_eq_ok hm
  exact ⟨score, hscore, congrArg Metrics.score (Except.ok.inj hm).symm⟩

/-- A score that is too high is told with its threshold. -/
theorem complexity_answers_iff {m : Metrics} {threshold : Value}
    (h : threshold.isNumber = true) :
    Answers (complexity ctx m threshold) ↔
      (threshold.isBelow m.score = .ok true →
        Answers m.score.written ∧ Answers threshold.written) := by
  obtain ⟨b, hb⟩ := Value.isBelow_answers h m.score
  rw [complexity, hb, Answers.ok_bind_iff]
  cases b with
  | false =>
    exact ⟨fun _ hb => absurd (Except.ok.inj hb) Bool.false_ne_true, fun _ => Answers.pure []⟩
  | true =>
    rw [if_pos rfl, Answers.bind_iff]
    constructor
    · rintro ⟨score, hscore, hlimit⟩ -
      exact ⟨⟨score, hscore⟩, (Answers.bind_iff_left fun limit => Answers.pure _).mp hlimit⟩
    · intro hwritten
      obtain ⟨⟨score, hscore⟩, hlimit⟩ := hwritten rfl
      exact ⟨score, hscore, (Answers.bind_iff_left fun limit => Answers.pure _).mpr hlimit⟩

theorem issuesOf_answers_iff {o : AnalysisOptions} {m : Metrics} :
    Answers (issuesOf o ctx m) ↔ Answers (complexity ctx m o.complexityThreshold) ∧
      Answers (runAll (issueDetectors o) ctx) := by
  rw [issuesOf, Answers.bind_iff]
  constructor
  · rintro ⟨complex, hcomplex, hrun⟩
    exact ⟨⟨complex, hcomplex⟩, (Answers.bind_iff_left fun detected => Answers.pure _).mp hrun⟩
  · rintro ⟨⟨complex, hcomplex⟩, hrun⟩
    exact ⟨complex, hcomplex, (Answers.bind_iff_left fun detected => Answers.pure _).mpr hrun⟩

/-- What has to hold of a template for its analysis to have an answer. -/
structure Analyzable (h : Heuristics) (o : AnalysisOptions) (s : TemplateSource) : Prop where
  /-- The score does not leave the range of the numbers, and it can be told if it is too high. -/
  score : ∃ score, (Counts.ofText s.dialect s.text).amounts.score h = .ok score ∧
    (o.complexityThreshold.isBelow (score.round 2) = .ok true →
      Answers (score.round 2).written ∧ Answers o.complexityThreshold.written)
  /-- The caps of loops are read if loops are analyzed. -/
  loopCaps : o.analyzeLoops = true → ∀ b ∈ loopsOf s.dialect s.text,
    LoopDetectors.CapReadable s.dialect b.opener.text
  /-- The caps of all tags are read until one is above the threshold. -/
  memoryCaps : EdgeCases.CapsReadable h.memoryLimitThreshold
    (EdgeCases.itemCap.findAll s.text)
  /-- Where there is nothing to tell, the thresholds of the detectors that tell the first match are
  not exceeded. -/
  inclusions : ∀ d, s.dialect.structure? = some d → d.inclusion.findAll s.text = [] →
    h.excessivePartials.AllowsNone
  dynamicValues : Issues.dynamicValue.findAll s.text = [] → h.dynamicValueCount.AllowsNone
  styleAttributes : Optimizations.styleAttribute.findAll s.text = [] →
    h.inlineStyleAttributes.AllowsNone
  /-- The threshold of repeated strings can be told if some string is repeated. -/
  repeatedStrings : (∃ e ∈ Optimizations.stringCounts s.text,
    h.repeatedStringCount.isBelow (.int e.2) = .ok true) → Answers h.repeatedStringCount.written
  /-- The render time does not leave the range of the numbers, and it can be told. -/
  renderTime : ∀ m issues, Metrics.ofText s.dialect s.text h = .ok m →
    issuesOf o (AnalysisContext.ofText s.path s.text s.dialect h) m = .ok issues →
      ∃ time, m.renderTime issues h = .ok time ∧ Answers time.written

/-- The parts of an analysis, each from its own computation. -/
theorem ofSource_eq_ok {h : Heuristics} {o : AnalysisOptions} {s : TemplateSource}
    {a : TemplateAnalysis} (ha : ofSource h o s = .ok a) :
    let ctx := AnalysisContext.ofText s.path s.text s.dialect h
    Metrics.ofText s.dialect s.text h = .ok a.metrics ∧
      issuesOf o ctx a.metrics = .ok a.issues ∧
      runAll Optimizations.detectors ctx = .ok a.optimizations ∧
      EdgeCases.detect s.dialect s.text (some s.path) h = .ok a.edgeCases ∧
      a.caching = (if o.suggestCaching then Caching.opportunities ctx else []) ∧
      a.partials = (if o.includePartials then EdgeCases.partials s.dialect s.text else []) ∧
      a.metrics.renderTime a.issues h = .ok a.renderTime ∧ Answers a.renderTime.written := by
  obtain ⟨m, hm, ha⟩ := Answers.bind_eq_ok ha
  obtain ⟨issues, hissues, ha⟩ := Answers.bind_eq_ok ha
  obtain ⟨optimizations, hoptimizations, ha⟩ := Answers.bind_eq_ok ha
  obtain ⟨edgeCases, hedge, ha⟩ := Answers.bind_eq_ok ha
  obtain ⟨time, htime, ha⟩ := Answers.bind_eq_ok ha
  obtain ⟨told, htold, ha⟩ := Answers.bind_eq_ok ha
  obtain rfl := Except.ok.inj ha
  exact ⟨hm, hissues, hoptimizations, hedge, rfl, rfl, htime, told, htold⟩

/-- **An analysis has an answer if and only if nothing stands against it.** -/
theorem ofSource_answers_iff {h : Heuristics} (haccepted : h.accepted = true)
    {o : AnalysisOptions} (hthreshold : o.complexityThreshold.isNumber = true)
    {s : TemplateSource} : Answers (ofSource h o s) ↔ Analyzable h o s := by
  have hctx : (AnalysisContext.ofText s.path s.text s.dialect h).heuristics.accepted = true :=
    haccepted
  constructor
  · rintro ⟨a, ha⟩
    obtain ⟨hm, hissues, hoptimizations, hedge, -, -, htime, htold⟩ := ofSource_eq_ok ha
    obtain ⟨score, hscore, heq⟩ := score_of_metrics hm
    obtain ⟨hcomplex, hdetected⟩ := issuesOf_answers_iff.mp ⟨a.issues, hissues⟩
    obtain ⟨hcaps, hinclusions, hdynamic⟩ := (runAll_issueDetectors_iff hctx).mp hdetected
    obtain ⟨hstyles, hstrings⟩ :=
      (runAll_optimizations_iff hctx).mp ⟨a.optimizations, hoptimizations⟩
    -- the metrics and the issues that the last condition speaks of are the ones that were found
    refine ⟨⟨score, hscore, heq ▸ (complexity_answers_iff hthreshold).mp hcomplex⟩, hcaps,
      (EdgeCases.detect_answers_iff haccepted).mp ⟨a.edgeCases, hedge⟩, hinclusions, hdynamic, hstyles,
      hstrings, fun m' issues' hm' hissues' => ?_⟩
    obtain rfl := Except.ok.inj (hm.symm.trans hm')
    obtain rfl := Except.ok.inj (hissues.symm.trans hissues')
    exact ⟨a.renderTime, htime, htold⟩
  · intro h
    obtain ⟨score, hscore, hwritten⟩ := h.score
    obtain ⟨m, hm, heq⟩ := metrics_of_score haccepted hscore
    rw [← heq] at hwritten
    have hdetected := (runAll_issueDetectors_iff hctx).mpr
      ⟨h.loopCaps, h.inclusions, h.dynamicValues⟩
    obtain ⟨issues, hissues⟩ := issuesOf_answers_iff.mpr
      ⟨(complexity_answers_iff hthreshold).mpr hwritten, hdetected⟩
    obtain ⟨optimizations, hoptimizations⟩ :=
      (runAll_optimizations_iff hctx).mpr ⟨h.styleAttributes, h.repeatedStrings⟩
    obtain ⟨edgeCases, hedge⟩ : Answers (EdgeCases.detect s.dialect s.text (some s.path) _) :=
      (EdgeCases.detect_answers_iff haccepted).mpr h.memoryCaps
    obtain ⟨time, htime, told, htold⟩ := h.renderTime m issues hm hissues
    rw [ofSource, hm, Answers.ok_bind_iff, hissues, Answers.ok_bind_iff, hoptimizations,
      Answers.ok_bind_iff, hedge, Answers.ok_bind_iff, htime, Answers.ok_bind_iff, htold,
      Answers.ok_bind_iff]
    exact Answers.pure _

end TemplateAnalysis

end TemplateLint
