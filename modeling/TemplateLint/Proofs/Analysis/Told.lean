import TemplateLint.Proofs.Analysis.Answers
import TemplateLint.Proofs.Entries
import TemplateLint.Proofs.Rule.Located
import TemplateLint.Proofs.Text.Occurrences
import TemplateLint.Proofs.Text.Reading

/-!
# What an analysis tells

A detector may stop without an answer.  What holds of everything that it finds when it has one is a
property of the steps that it takes (`Finds`), so each detector is followed once.  Its findings come
from rules of its own, have the severity of its group, and name the template and a line of it
(`AnalysisContext.Tells`).  So issues are critical or warn, caching opportunities and optimizations
inform, and all of them, like the risks, stand in a line of the template
(`TemplateAnalysis.ofSource_tells`).
-/
namespace TemplateLint

/-- Everything that a computation finds, if it has an answer, has a property. -/
def Finds {α : Type} (P : α → Prop) (x : Except Fault (List α)) : Prop :=
  ∀ found, x = .ok found → ∀ a ∈ found, P a

namespace Finds

variable {α β : Type} {P Q : α → Prop}

theorem ok {found : List α} (h : ∀ a ∈ found, P a) : Finds P (.ok found) := by
  intro other hother
  obtain rfl := Except.ok.inj hother
  exact h

theorem nothing : Finds P (pure []) := ok (List.forall_mem_nil P)

theorem one {a : α} (h : P a) : Finds P (pure [a]) := by
  refine ok fun b hb => ?_
  rw [List.mem_singleton.mp hb]
  exact h

theorem mono {x : Except Fault (List α)} (h : Finds P x) (hPQ : ∀ a, P a → Q a) : Finds Q x :=
  fun found hfound a ha => hPQ a (h found hfound a ha)

/-- What follows a step may use what the step has given. -/
theorem bind {x : Except Fault β} {f : β → Except Fault (List α)}
    (h : ∀ b, x = .ok b → Finds P (f b)) : Finds P (x >>= f) := by
  intro found hfound
  obtain ⟨b, hb, hf⟩ := Answers.bind_eq_ok hfound
  exact h b hb found hf

/-- One thing is found if a test says so. -/
theorem guarded {test : Except Fault Bool} {a : α} (h : P a) :
    Finds P (test >>= fun holds => if holds = true then pure [a] else pure []) := by
  refine bind fun holds _ => ?_
  split
  · exact one h
  · exact nothing

theorem append {first second : List α} (hfirst : ∀ a ∈ first, P a) (hsecond : ∀ a ∈ second, P a) :
    Finds P (pure (first ++ second)) :=
  ok (List.forall_mem_append.mpr ⟨hfirst, hsecond⟩)

/-- What is found in some things is found in one of them. -/
theorem gather {P : Finding → Prop} {look : β → Except Fault (List Finding)} {things : List β}
    (h : ∀ t ∈ things, Finds P (look t)) : Finds P (gather look things) := by
  refine bind fun parts hparts => ok fun f hf => ?_
  induction things generalizing parts with
  | nil =>
    obtain rfl := Except.ok.inj hparts
    cases hf
  | cons t things ih =>
    rw [List.mapM_cons] at hparts
    obtain ⟨part, hpart, hparts⟩ := Answers.bind_eq_ok hparts
    obtain ⟨more, hmore, hparts⟩ := Answers.bind_eq_ok hparts
    obtain rfl := Except.ok.inj hparts
    rcases List.mem_append.mp hf with hf | hf
    · exact h t List.mem_cons_self part hpart f hf
    · exact ih (fun u hu => h u (List.mem_cons_of_mem t hu)) more hmore hf

end Finds

namespace AnalysisContext

/-- A finding of one of some rules, with the given severity, in a line of the template that it
names. -/
structure Tells (ctx : AnalysisContext) (rules : List Text) (severity : Severity) (f : Finding) :
    Prop where
  rule_mem : f.rule ∈ rules
  severity_eq : f.severity = severity
  template_eq : f.template = some ctx.path
  line_pos : 1 ≤ f.line
  line_le : f.line ≤ ctx.text.lineCount

variable {ctx : AnalysisContext} {rules : List Text} {severity : Severity}

/-- A finding at any offset stands in a line of the template. -/
theorem finding_tells {rule : Text} (hrule : rule ∈ rules) (category : Category) (offset : Nat)
    (message : Text) (evidence suggestion : Option Text) (details : Entries Value) :
    ctx.Tells rules severity
      (ctx.finding rule category severity offset message evidence suggestion details) := by
  obtain ⟨hpos, hle⟩ := Position.line_ofOffset ctx.text offset
  exact ⟨hrule, rfl, rfl, Int.ofNat_le.mpr hpos, Int.ofNat_le.mpr hle⟩

end AnalysisContext

variable {ctx : AnalysisContext}

/-! ## Loops -/

namespace LoopDetectors

/-- The rules about what a loop loads once per item. -/
def loadRules : List Text := ["n_plus_one", "query_in_loop"]

/-- The rules about how many items are rendered. -/
def sizeRules : List Text := ["nested_loops", "unpaginated_loop"]

theorem relationships_finds : Finds (ctx.Tells loadRules .critical) (relationships ctx) := by
  rw [relationships]
  split
  · exact Finds.nothing
  · refine Finds.bind fun names _ => Finds.gather fun b _ => ?_
    rw [relationshipIn]
    split
    · exact Finds.nothing
    · refine Finds.bind fun marked _ => ?_
      split
      · exact Finds.nothing
      · dsimp only
        split
        · exact Finds.nothing
        · exact Finds.one (AnalysisContext.finding_tells List.mem_cons_self ..)

theorem queries_tells {f : Finding} (hf : f ∈ queries ctx) : ctx.Tells loadRules .critical f := by
  rw [queries] at hf
  split at hf
  · cases hf
  · obtain ⟨m, -, rfl⟩ := List.mem_map.mp hf
    exact AnalysisContext.finding_tells (List.mem_of_getElem? (i := 1) rfl) ..

/-- The nests are those of the structure rules, with the template added. -/
theorem nests_tells {f : Finding} (hf : f ∈ nests ctx) : ctx.Tells sizeRules .warning f := by
  obtain ⟨g, hg, rfl⟩ := List.mem_map.mp hf
  have hlocated := StructureRules.nestedLoops_locatedIn hg
  obtain ⟨nest, -, rfl⟩ := List.mem_map.mp hg
  exact ⟨List.mem_cons_self, rfl, rfl, hlocated.line_pos, hlocated.line_le⟩

theorem unpaginated_finds : Finds (ctx.Tells sizeRules .warning) (unpaginated ctx) := by
  refine Finds.gather fun b _ => Finds.bind fun cap _ => ?_
  cases cap with
  | none => exact Finds.nothing
  | some cap =>
    refine Finds.bind fun large _ => ?_
    split
    · split
      · exact Finds.nothing
      · exact Finds.one (AnalysisContext.finding_tells (List.mem_of_getElem? (i := 1) rfl) ..)
    · exact Finds.nothing

/-- The detectors of what a loop loads once per item. -/
def loadDetectors : List Detector := [relationships, fun ctx => .ok (queries ctx)]

/-- The detectors of how many items are rendered. -/
def sizeDetectors : List Detector := [fun ctx => .ok (nests ctx), unpaginated]

theorem loadDetectors_finds :
    Finds (ctx.Tells loadRules .critical) (TemplateAnalysis.runAll loadDetectors ctx) := by
  refine Finds.gather fun detect hdetect => ?_
  simp only [loadDetectors, List.mem_cons, List.not_mem_nil, or_false] at hdetect
  rcases hdetect with rfl | rfl
  · exact relationships_finds
  · exact Finds.ok fun f => queries_tells

theorem sizeDetectors_finds :
    Finds (ctx.Tells sizeRules .warning) (TemplateAnalysis.runAll sizeDetectors ctx) := by
  refine Finds.gather fun detect hdetect => ?_
  simp only [sizeDetectors, List.mem_cons, List.not_mem_nil, or_false] at hdetect
  rcases hdetect with rfl | rfl
  · exact Finds.ok fun f => nests_tells
  · exact unpaginated_finds

end LoopDetectors

/-! ## Issues -/

namespace Issues

/-- The rules about a whole template. -/
def rules : List Text :=
  ["excessive_partials", "complex_conditional", "excessive_inline_php", "facade_in_template",
    "uncached_dynamic"]

theorem excessivePartials_finds : Finds (ctx.Tells rules .warning) (excessivePartials ctx) := by
  rw [excessivePartials]
  split
  · exact Finds.nothing
  · refine Finds.bind fun many _ => ?_
    split
    · refine Finds.bind fun m _ => Finds.one ?_
      exact AnalysisContext.finding_tells List.mem_cons_self ..
    · exact Finds.nothing

theorem complexConditionals_finds :
    Finds (ctx.Tells rules .warning) (complexConditionals ctx) :=
  Finds.gather fun _ _ =>
    Finds.guarded (AnalysisContext.finding_tells (List.mem_of_getElem? (i := 1) rfl) ..)

theorem inlineCode_finds : Finds (ctx.Tells rules .warning) (inlineCode ctx) := by
  rw [inlineCode]
  split
  · exact Finds.gather fun _ _ =>
      Finds.guarded (AnalysisContext.finding_tells (List.mem_of_getElem? (i := 2) rfl) ..)
  · exact Finds.nothing

theorem facades_tells {f : Finding} (hf : f ∈ facades ctx) : ctx.Tells rules .warning f := by
  rw [facades] at hf
  split at hf
  · dsimp only at hf
    split at hf
    · cases hf
    · rw [List.mem_singleton.mp hf]
      exact AnalysisContext.finding_tells (List.mem_of_getElem? (i := 3) rfl) ..
  · cases hf

theorem uncachedDynamic_finds : Finds (ctx.Tells rules .warning) (uncachedDynamic ctx) := by
  refine Finds.bind fun many _ => ?_
  split
  · refine Finds.bind fun m _ => Finds.one ?_
    exact AnalysisContext.finding_tells (List.mem_of_getElem? (i := 4) rfl) ..
  · exact Finds.nothing

theorem detectors_finds :
    Finds (ctx.Tells rules .warning) (TemplateAnalysis.runAll detectors ctx) := by
  refine Finds.gather fun detect hdetect => ?_
  simp only [detectors, List.mem_cons, List.not_mem_nil, or_false] at hdetect
  rcases hdetect with rfl | rfl | rfl | rfl | rfl
  · exact excessivePartials_finds
  · exact complexConditionals_finds
  · exact inlineCode_finds
  · exact Finds.ok fun f => facades_tells
  · exact uncachedDynamic_finds

end Issues

/-! ## Caching opportunities -/

namespace Caching

/-- The rules about what could be cached. -/
def rules : List Text := ["static_caching", "collection_caching", "asset_caching"]

theorem opportunity_tells {rule : Text} (hrule : rule ∈ rules) (offset : Nat)
    (message suggestion benefit : Text) (more : Entries Value) :
    ctx.Tells rules .info (opportunity ctx rule offset message suggestion benefit more) :=
  AnalysisContext.finding_tells hrule ..

theorem staticCaching_tells {f : Finding} (hf : f ∈ staticCaching ctx) :
    ctx.Tells rules .info f := by
  rw [staticCaching] at hf
  split at hf
  · cases hf
  · rw [List.mem_singleton.mp hf]
    exact opportunity_tells List.mem_cons_self ..

theorem collectionCaching_tells {f : Finding} (hf : f ∈ collectionCaching ctx) :
    ctx.Tells rules .info f := by
  obtain ⟨m, -, rfl⟩ := List.mem_map.mp hf
  exact opportunity_tells (List.mem_of_getElem? (i := 1) rfl) ..

theorem assetCaching_tells {f : Finding} (hf : f ∈ assetCaching ctx) : ctx.Tells rules .info f := by
  rw [assetCaching] at hf
  split at hf
  · cases hf
  · rw [List.mem_singleton.mp hf]
    exact opportunity_tells (List.mem_of_getElem? (i := 2) rfl) ..

theorem opportunities_tells {f : Finding} (hf : f ∈ opportunities ctx) :
    ctx.Tells rules .info f := by
  rcases List.mem_append.mp hf with hf | hf
  · exact staticCaching_tells hf
  · split at hf
    · rcases List.mem_append.mp hf with hf | hf
      · exact collectionCaching_tells hf
      · exact assetCaching_tells hf
    · cases hf

end Caching

/-! ## Optimizations -/

namespace Optimizations

/-- The rules about what could be better. -/
def rules : List Text :=
  ["unused_variables", "inline_styles", "inline_scripts", "long_template", "repeated_markup",
    "inline_style_attributes", "repeated_strings", "non_semantic_markup", "insecure_links"]

theorem note_tells {rule : Text} (hrule : rule ∈ rules) (category : Category) (offset : Nat)
    (message suggestion : Text) (evidence : Option Text) (details : Entries Value) :
    ctx.Tells rules .info (note ctx rule category offset message suggestion evidence details) :=
  AnalysisContext.finding_tells hrule ..

theorem unusedVariables_tells {f : Finding} (hf : f ∈ unusedVariables ctx) :
    ctx.Tells rules .info f := by
  rw [unusedVariables] at hf
  split at hf
  · dsimp only at hf
    split at hf
    · cases hf
    · rw [List.mem_singleton.mp hf]
      exact note_tells List.mem_cons_self ..
  · cases hf

theorem largeBlock_finds {rule : Text} (hrule : rule ∈ rules) (pattern : Pattern)
    (label target : Text) :
    Finds (ctx.Tells rules .info) (largeBlock ctx rule pattern label target) := by
  refine Finds.bind fun found _ => ?_
  cases found with
  | none => exact Finds.nothing
  | some m => exact Finds.one (note_tells hrule ..)

theorem externalAssets_finds : Finds (ctx.Tells rules .info) (externalAssets ctx) := by
  refine Finds.bind fun styles hstyles => Finds.bind fun scripts hscripts => Finds.append ?_ ?_
  · exact largeBlock_finds (List.mem_of_getElem? (i := 1) rfl) _ _ _ styles hstyles
  · exact largeBlock_finds (List.mem_of_getElem? (i := 2) rfl) _ _ _ scripts hscripts

theorem longTemplate_finds : Finds (ctx.Tells rules .info) (longTemplate ctx) :=
  Finds.guarded (note_tells (List.mem_of_getElem? (i := 3) rfl) ..)

theorem repeatedMarkup_finds : Finds (ctx.Tells rules .info) (repeatedMarkup ctx) :=
  Finds.gather fun _ _ => Finds.guarded (note_tells (List.mem_of_getElem? (i := 4) rfl) ..)

theorem styleAttributes_finds : Finds (ctx.Tells rules .info) (styleAttributes ctx) := by
  refine Finds.bind fun many _ => ?_
  split
  · refine Finds.bind fun m _ => Finds.one ?_
    exact note_tells (List.mem_of_getElem? (i := 5) rfl) ..
  · exact Finds.nothing

/-- The values that are more frequent are among the counted ones. -/
theorem moreFrequent_finds (threshold : Value) (counts : Entries Nat) :
    Finds (· ∈ counts.keys) (moreFrequent threshold counts) := by
  induction counts with
  | nil => exact Finds.nothing
  | cons entry more ih =>
    obtain ⟨value, count⟩ := entry
    refine Finds.bind fun isFrequent _ => Finds.bind fun rest hrest => Finds.ok ?_
    have hmore : ∀ a ∈ rest, a ∈ Entries.keys ((value, count) :: more) := fun a ha =>
      List.mem_cons_of_mem value (ih rest hrest a ha)
    split
    · exact List.forall_mem_cons.mpr ⟨List.mem_cons_self, hmore⟩
    · exact hmore

/-- A string of the template occurs in it, so the note on it stands where it occurs. -/
theorem stringsNote_tells {s : Text} (hs : s <:+: ctx.text) (repeated : List Text) (limit : Text) :
    ctx.Tells rules .info (stringsNote ctx s repeated limit) := by
  obtain ⟨offset, hoffset⟩ :=
    Option.isSome_iff_exists.mp ((Text.isSome_indexOf?_iff s ctx.text).mpr hs)
  rw [stringsNote, hoffset]
  exact note_tells (List.mem_of_getElem? (i := 6) rfl) ..

theorem repeatedStrings_finds : Finds (ctx.Tells rules .info) (repeatedStrings ctx) := by
  refine Finds.bind fun frequent hfrequent => ?_
  dsimp only
  split
  · exact Finds.nothing
  · next s more hsorted =>
    refine Finds.bind fun limit _ => Finds.one (stringsNote_tells ?_ _ _)
    -- the first of the sorted strings is one that was counted, so a match of the template
    have hs : s ∈ frequent := by
      rw [← List.mem_mergeSort, hsorted]
      exact List.mem_cons_self
    have hcounted := moreFrequent_finds _ _ frequent hfrequent s hs
    rw [keys_tally, mem_firstSeen] at hcounted
    obtain ⟨m, hm, rfl⟩ := List.mem_map.mp hcounted
    exact (Pattern.group_of_mem_findAll 1 (fun _ => true) hm).1

theorem semanticMarkup_tells {f : Finding} (hf : f ∈ semanticMarkup ctx) :
    ctx.Tells rules .info f := by
  rw [semanticMarkup] at hf
  split at hf
  · cases hf
  · split at hf
    · cases hf
    · rw [List.mem_singleton.mp hf]
      exact note_tells (List.mem_of_getElem? (i := 7) rfl) ..

theorem secureLinks_tells {f : Finding} (hf : f ∈ secureLinks ctx) : ctx.Tells rules .info f := by
  rw [secureLinks] at hf
  split at hf
  · cases hf
  · rw [List.mem_singleton.mp hf]
    exact note_tells (List.mem_of_getElem? (i := 8) rfl) ..

theorem detectors_finds :
    Finds (ctx.Tells rules .info) (TemplateAnalysis.runAll detectors ctx) := by
  refine Finds.gather fun detect hdetect => ?_
  simp only [detectors, List.mem_cons, List.not_mem_nil, or_false] at hdetect
  rcases hdetect with rfl | rfl | rfl | rfl | rfl | rfl | rfl | rfl
  · exact Finds.ok fun f => unusedVariables_tells
  · exact externalAssets_finds
  · exact longTemplate_finds
  · exact repeatedMarkup_finds
  · exact styleAttributes_finds
  · exact repeatedStrings_finds
  · exact Finds.ok fun f => semanticMarkup_tells
  · exact Finds.ok fun f => secureLinks_tells

end Optimizations

/-! ## Risks -/

namespace EdgeCases

/-- A risk is told in a line of the text. -/
def InLine (text : Text) (e : EdgeCase) : Prop :=
  ∃ line, e.line = some line ∧ 1 ≤ line ∧ line ≤ text.lineCount

variable {text : Text}

theorem riskAt_inLine (kind risk : Text) (offset : Nat) (message : Text) :
    InLine text (riskAt text kind risk offset message) := by
  obtain ⟨hpos, hle⟩ := Position.line_ofOffset text offset
  exact ⟨_, rfl, Int.ofNat_le.mpr hpos, Int.ofNat_le.mpr hle⟩

theorem recursion_inLine {dialect : Dialect} {path : Option Text} :
    ∀ e ∈ recursion dialect text path, InLine text e := by
  rw [recursion]
  split
  · exact List.forall_mem_nil _
  · dsimp only
    split
    · exact List.forall_mem_nil _
    · exact List.forall_mem_singleton.mpr (riskAt_inLine ..)

theorem memory_inLine (threshold : Value) : Finds (InLine text) (memory text threshold) := by
  refine Finds.bind fun found _ => ?_
  cases found with
  | none => exact Finds.nothing
  | some found => exact Finds.one (riskAt_inLine ..)

theorem endless_inLine {dialect : Dialect} : ∀ e ∈ endless dialect text, InLine text e := by
  rw [endless]
  split
  · exact List.forall_mem_nil _
  · exact List.forall_mem_singleton.mpr (riskAt_inLine ..)

theorem unescaped_inLine {dialect : Dialect} : ∀ e ∈ unescaped dialect text, InLine text e := by
  rw [unescaped]
  split
  · exact List.forall_mem_nil _
  · split
    · exact List.forall_mem_nil _
    · exact List.forall_mem_singleton.mpr (riskAt_inLine ..)

theorem detect_inLine (dialect : Dialect) (path : Option Text) (h : Heuristics) :
    Finds (InLine text) (detect dialect text path h) := by
  refine Finds.bind fun memory hmemory => Finds.append ?_ unescaped_inLine
  refine List.forall_mem_append.mpr ⟨List.forall_mem_append.mpr ⟨recursion_inLine, ?_⟩, ?_⟩
  · exact memory_inLine _ memory hmemory
  · exact endless_inLine

end EdgeCases

/-! ## Analyses -/

namespace TemplateAnalysis

theorem complexity_finds {m : Metrics} {threshold : Value} :
    Finds (ctx.Tells ["high_complexity"] .warning) (complexity ctx m threshold) := by
  refine Finds.bind fun high _ => ?_
  split
  · refine Finds.bind fun score _ => Finds.bind fun limit _ => Finds.one ?_
    exact AnalysisContext.finding_tells List.mem_cons_self ..
  · exact Finds.nothing

/-- A run over two groups of detectors finds what each of them finds. -/
theorem runAll_append_eq_ok {first second : List Detector} {found : List Finding}
    (h : runAll (first ++ second) ctx = .ok found) :
    ∃ a b, runAll first ctx = .ok a ∧ runAll second ctx = .ok b ∧ found = a ++ b := by
  obtain ⟨parts, hparts, hfound⟩ := Answers.bind_eq_ok h
  rw [List.mapM_append] at hparts
  obtain ⟨left, hleft, hparts⟩ := Answers.bind_eq_ok hparts
  obtain ⟨right, hright, hparts⟩ := Answers.bind_eq_ok hparts
  obtain rfl := Except.ok.inj hparts
  obtain rfl := Except.ok.inj hfound
  refine ⟨left.flatten, right.flatten, ?_, ?_, List.flatten_append⟩
  · rw [runAll, gather, hleft]
    rfl
  · rw [runAll, gather, hright]
    rfl

/-- A group that is not asked for finds nothing. -/
theorem runAll_ite_finds {P : Finding → Prop} {asked : Bool} {detectors : List Detector}
    (h : Finds P (runAll detectors ctx)) :
    Finds P (runAll (if asked then detectors else []) ctx) := by
  cases asked with
  | true => exact h
  | false => exact Finds.nothing

/-- The issues are those of complexity and then of each group of detectors. -/
theorem issuesOf_eq_ok {o : AnalysisOptions} {m : Metrics} {issues : List Finding}
    (h : issuesOf o ctx m = .ok issues) :
    ∃ complex load size whole, complexity ctx m o.complexityThreshold = .ok complex ∧
      runAll (if o.checkRelationships then LoopDetectors.loadDetectors else []) ctx = .ok load ∧
      runAll (if o.analyzeLoops then LoopDetectors.sizeDetectors else []) ctx = .ok size ∧
      runAll Issues.detectors ctx = .ok whole ∧ issues = complex ++ (load ++ size ++ whole) := by
  obtain ⟨complex, hcomplex, h⟩ := Answers.bind_eq_ok h
  obtain ⟨detected, hdetected, h⟩ := Answers.bind_eq_ok h
  obtain rfl := Except.ok.inj h
  obtain ⟨loops, whole, hloops, hwhole, rfl⟩ := runAll_append_eq_ok hdetected
  obtain ⟨load, size, hload, hsize, rfl⟩ := runAll_append_eq_ok hloops
  exact ⟨complex, load, size, whole, hcomplex, hload, hsize, hwhole, rfl⟩

/-- Every issue comes from a known rule and is critical or warns. -/
theorem issuesOf_finds (o : AnalysisOptions) (m : Metrics) :
    Finds (fun f => ∃ rules, ctx.Tells rules .critical f ∨ ctx.Tells rules .warning f)
      (issuesOf o ctx m) := by
  intro issues hissues
  obtain ⟨complex, load, size, whole, hcomplex, hload, hsize, hwhole, rfl⟩ := issuesOf_eq_ok hissues
  intro f hf
  simp only [List.mem_append] at hf
  rcases hf with hf | (hf | hf) | hf
  · exact ⟨_, Or.inr (complexity_finds complex hcomplex f hf)⟩
  · exact ⟨_, Or.inl (runAll_ite_finds LoopDetectors.loadDetectors_finds load hload f hf)⟩
  · exact ⟨_, Or.inr (runAll_ite_finds LoopDetectors.sizeDetectors_finds size hsize f hf)⟩
  · exact ⟨_, Or.inr (Issues.detectors_finds whole hwhole f hf)⟩

/-- **What an analysis tells stands in a line of the template**, and names the template.  Issues are
critical or warn; caching opportunities and optimizations inform. -/
theorem ofSource_tells {h : Heuristics} {o : AnalysisOptions} {s : TemplateSource}
    {a : TemplateAnalysis} (ha : ofSource h o s = .ok a) :
    (∀ f ∈ a.issues ++ a.caching ++ a.optimizations,
      1 ≤ f.line ∧ f.line ≤ s.text.lineCount ∧ f.template = some s.path) ∧
    (∀ e ∈ a.edgeCases, ∃ line, e.line = some line ∧ 1 ≤ line ∧ line ≤ s.text.lineCount) ∧
    (∀ f ∈ a.issues, f.severity = .critical ∨ f.severity = .warning) ∧
    ∀ f ∈ a.caching ++ a.optimizations, f.severity = .info := by
  obtain ⟨-, hissues, hoptimizations, hedge, hcaching, -⟩ := ofSource_eq_ok ha
  have hissue := issuesOf_finds o a.metrics a.issues hissues
  have hcache : ∀ f ∈ a.caching, (AnalysisContext.ofText s.path s.text s.dialect h).Tells
      Caching.rules .info f := by
    rw [hcaching]
    split
    · exact fun f => Caching.opportunities_tells
    · exact List.forall_mem_nil _
  have hoptimization := Optimizations.detectors_finds a.optimizations hoptimizations
  simp only [List.forall_mem_append]
  refine ⟨⟨⟨fun f hf => ?_, fun f hf => ?_⟩, fun f hf => ?_⟩, ?_, fun f hf => ?_,
    fun f hf => ?_, fun f hf => ?_⟩
  · obtain ⟨rules, htells | htells⟩ := hissue f hf
    · exact ⟨htells.line_pos, htells.line_le, htells.template_eq⟩
    · exact ⟨htells.line_pos, htells.line_le, htells.template_eq⟩
  · exact ⟨(hcache f hf).line_pos, (hcache f hf).line_le, (hcache f hf).template_eq⟩
  · exact ⟨(hoptimization f hf).line_pos, (hoptimization f hf).line_le,
      (hoptimization f hf).template_eq⟩
  · exact EdgeCases.detect_inLine s.dialect (some s.path) h a.edgeCases hedge
  · obtain ⟨rules, htells | htells⟩ := hissue f hf
    · exact Or.inl htells.severity_eq
    · exact Or.inr htells.severity_eq
  · exact (hcache f hf).severity_eq
  · exact (hoptimization f hf).severity_eq

/-- A template in which every group tells something. -/
theorem ofSource_tells_default :
    let text : Text :=
      "<nav></nav>\n\x7b\x7b collection:blog limit=\"2000\" \x7d\x7d\n\x7b\x7b author:name " ++
        "\x7d\x7d\n\x7b\x7b /collection:blog \x7d\x7d\n<a href=\"http://x\">"
    let s : TemplateSource := ⟨"blog.antlers.html", .antlers, text, 0⟩
    ∃ a : TemplateAnalysis, ofSource Heuristics.default {} s = .ok a ∧
      (a.issues ++ a.caching ++ a.optimizations).map Finding.line = [2, 2, 1, 2, 5] ∧
      a.edgeCases.map EdgeCase.line = [some 2] ∧
      (∀ f ∈ a.issues ++ a.caching ++ a.optimizations,
        1 ≤ f.line ∧ f.line ≤ s.text.lineCount ∧ f.template = some s.path) ∧
      (∀ e ∈ a.edgeCases, ∃ line, e.line = some line ∧ 1 ≤ line ∧ line ≤ s.text.lineCount) ∧
      (∀ f ∈ a.issues, f.severity = .critical ∨ f.severity = .warning) ∧
      ∀ f ∈ a.caching ++ a.optimizations, f.severity = .info := by
  intro text s
  have hrun : (do
      let a ← ofSource Heuristics.default {} s
      pure ((a.issues ++ a.caching ++ a.optimizations).map Finding.line,
        a.edgeCases.map EdgeCase.line)) = .ok ([2, 2, 1, 2, 5], [some 2]) := by
    decide +kernel
  obtain ⟨a, ha, hrun⟩ := Answers.bind_eq_ok hrun
  obtain ⟨hlines, hrisks⟩ := Prod.mk.inj (Except.ok.inj hrun)
  exact ⟨a, ha, hlines, hrisks, ofSource_tells ha⟩

end TemplateAnalysis

end TemplateLint
