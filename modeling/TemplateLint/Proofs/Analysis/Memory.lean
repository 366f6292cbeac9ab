import TemplateLint.Proofs.Analysis.Caps
import TemplateLint.Proofs.Analysis.Unescaped

/-!
# Caps that may exhaust the memory

Caps are read twice: a detector reads the cap of a loop from its opener, with the pattern of the dialect,
and an edge case looks for caps of either dialect in the whole document, up to the first one above its
threshold.  What the detector reads is a cap of the document (`TemplateAnalysis.exists_capAt_of_capped`),
and the search of the edge case misses none (`EdgeCases.memory_eq_ok`).  So the edge case is told whenever
a loop is reported with a cap that is too large (`TemplateAnalysis.ofSource_overlarge`).
-/
namespace TemplateLint

open ItemCap

theorem readDigits_eq_ok {digits : Text} {n : Nat} (h : readDigits digits = .ok n) :
    n = digitsValue digits := by
  rw [readDigits] at h
  split at h
  · cases h
  · exact (Except.ok.inj h).symm

namespace EdgeCases

/-! ## The first excess -/

/-- A cap is above a threshold. -/
def Exceeds (threshold : Value) (cap : Nat) : Prop := threshold.isBelow (.int cap) = .ok true

instance (threshold : Value) (cap : Nat) : Decidable (Exceeds threshold cap) :=
  inferInstanceAs (Decidable (threshold.isBelow (.int cap) = .ok true))

/-- The first cap of a text that is above a threshold. -/
structure FirstExcess (threshold : Value) (text : Text) (start : Nat) (digits : Text) : Prop where
  capAt : CapAt text start digits
  exceeds : Exceeds threshold (digitsValue digits)
  first : ∀ k < start, ∀ digits', CapAt text k digits' → ¬ Exceeds threshold (digitsValue digits')

variable {threshold : Value} {text : Text}

/-- The match of a cap above a threshold. -/
def isExcess (threshold : Value) (m : Match) : Bool := Exceeds threshold (digitsValue (m.group 1))

/-- If the caps can be read and compared, the walk through them gives the first one above. -/
theorem firstExcess_eq_ok {caps : List Match} {found : Option (Match × Nat)}
    (h : firstExcess threshold caps = .ok found) :
    found = (caps.find? (isExcess threshold)).map fun m => (m, digitsValue (m.group 1)) := by
  induction caps with
  | nil => exact (Except.ok.inj h).symm
  | cons m more ih =>
    obtain ⟨cap, hcap, h⟩ := Answers.bind_eq_ok h
    obtain rfl := readDigits_eq_ok hcap
    obtain ⟨above, habove, h⟩ := Answers.bind_eq_ok h
    cases above with
    | true =>
      have hexcess : isExcess threshold m = true := decide_eq_true habove
      rw [List.find?_cons_of_pos hexcess]
      exact (Except.ok.inj h).symm
    | false =>
      have hexcess : ¬ isExcess threshold m = true := by
        intro hexcess
        have htrue : Exceeds threshold (digitsValue (m.group 1)) := of_decide_eq_true hexcess
        rw [Exceeds, habove] at htrue
        cases htrue
      rw [List.find?_cons_of_neg hexcess]
      exact ih h

/-- The risk of a cap that is too large. -/
def memoryRisk (text : Text) (start : Nat) (digits : Text) : EdgeCase :=
  riskAt text "memory_intensive" "critical" start
    ("Very large limit (" ++ Text.ofNat (digitsValue digits) ++ ") may cause memory issues")

/-- **The edge case is told at the first cap above the threshold**, if there is one. -/
theorem memory_eq_ok {risks : List EdgeCase} (h : memory text threshold = .ok risks) :
    (risks = [] ∧ ∀ start digits, CapAt text start digits → ¬ Exceeds threshold (digitsValue digits)) ∨
      ∃ start digits, FirstExcess threshold text start digits ∧
        risks = [memoryRisk text start digits] := by
  obtain ⟨found, hfound, h⟩ := Answers.bind_eq_ok h
  obtain rfl := firstExcess_eq_ok hfound
  cases hfirst : (itemCap.findAll text).find? (isExcess threshold) with
  | none =>
    rw [hfirst] at h
    refine Or.inl ⟨(Except.ok.inj h).symm, fun start digits hcap hexceeds => ?_⟩
    obtain ⟨m, hm, -, rfl⟩ := exists_mem_findAll_iff.mpr hcap
    exact List.find?_eq_none.mp hfirst m hm (decide_eq_true hexceeds)
  | some m =>
    rw [hfirst] at h
    have hexcess : isExcess threshold m = true := List.find?_some hfirst
    refine Or.inr ⟨m.start, m.group 1, ⟨?_, of_decide_eq_true hexcess, ?_⟩, (Except.ok.inj h).symm⟩
    · exact exists_mem_findAll_iff.mp ⟨m, List.mem_of_find?_eq_some hfirst, rfl, rfl⟩
    · intro k hk digits hcap hexceeds
      obtain ⟨earlier, hearlier, rfl, rfl⟩ := exists_mem_findAll_iff.mpr hcap
      exact Pattern.not_of_start_lt hfirst hearlier hk (decide_eq_true hexceeds)

/-- The risks of a template that are of this kind are those of its caps. -/
theorem mem_memory_iff {dialect : Dialect} {path : Option Text} {h : Heuristics}
    {risks : List EdgeCase} (hrisks : detect dialect text path h = .ok risks) :
    ∃ told, memory text h.memoryLimitThreshold = .ok told ∧
      ∀ e, e ∈ told ↔ e ∈ risks ∧ e.kind = String.toList "memory_intensive" := by
  obtain ⟨told, htold, hrisks⟩ := Answers.bind_eq_ok hrisks
  obtain rfl := Except.ok.inj hrisks
  refine ⟨told, htold, fun e => ⟨fun he => ⟨?_, memory_kind text _ told htold e he⟩, ?_⟩⟩
  · exact List.mem_append_left _ (List.mem_append_left _ (List.mem_append_right _ he))
  · rintro ⟨he, hkind⟩
    simp only [List.mem_append] at he
    rcases he with ((he | he) | he) | he
    · exact absurd ((recursion_kind dialect text path e he).symm.trans hkind) (by decide)
    · exact he
    · exact absurd ((endless_kind dialect text e he).symm.trans hkind) (by decide)
    · exact absurd ((unescaped_kind dialect text e he).symm.trans hkind) (by decide)

end EdgeCases

/-! ## Loops with a cap -/

namespace LoopDetectors

variable {ctx : AnalysisContext} {f : Finding}

/-- A finding about a loop of the template, with the cap in its opener. -/
def Capped (ctx : AnalysisContext) (f : Finding) : Prop :=
  ∃ b ∈ ctx.loops, ∃ m, (if ctx.dialect = .blade then bladeCap else antlersCap).find? b.opener.text =
    some m ∧ f = cappedFinding ctx b (digitsValue (m.group 1))

/-- The cap of a loop is the number that its pattern finds in the opener. -/
theorem itemCap_eq_ok {dialect : Dialect} {opener : Text} {cap : Nat}
    (h : itemCap dialect opener = .ok (some cap)) :
    ∃ m, (if dialect = .blade then bladeCap else antlersCap).find? opener = some m ∧
      cap = digitsValue (m.group 1) := by
  rw [itemCap] at h
  split at h
  · cases h
  · next m hm =>
    cases hread : readDigits (m.group 1) with
    | error fault =>
      rw [hread] at h
      cases h
    | ok n =>
      rw [hread] at h
      obtain rfl : n = cap := Option.some.inj (Except.ok.inj h)
      exact ⟨m, hm, readDigits_eq_ok hread⟩

theorem unpaginated_capped : Finds (Capped ctx) (unpaginated ctx) := by
  refine Finds.gather fun b hb => Finds.bind fun cap hcap => ?_
  cases cap with
  | none => exact Finds.nothing
  | some cap =>
    obtain ⟨m, hm, rfl⟩ := itemCap_eq_ok hcap
    refine Finds.bind fun large _ => ?_
    split
    · split
      · exact Finds.nothing
      · exact Finds.one ⟨b, hb, m, hm, rfl⟩
    · exact Finds.nothing

theorem nests_rule (hf : f ∈ nests ctx) : f.rule = "nested_loops" := by
  obtain ⟨g, hg, rfl⟩ := List.mem_map.mp hf
  obtain ⟨nest, -, rfl⟩ := List.mem_map.mp hg
  rfl

/-- Among the findings about loops, those of this rule have a cap. -/
theorem sizeDetectors_capped :
    Finds (fun f => f.rule = String.toList "unpaginated_loop" → Capped ctx f)
      (TemplateAnalysis.runAll sizeDetectors ctx) := by
  refine Finds.gather fun detect hdetect => ?_
  simp only [sizeDetectors, List.mem_cons, List.not_mem_nil, or_false] at hdetect
  rcases hdetect with rfl | rfl
  · exact Finds.ok fun f hf hrule => absurd ((nests_rule hf).symm.trans hrule) (by decide)
  · exact unpaginated_capped.mono fun f hf _ => hf

end LoopDetectors

/-- No token starts with a letter. -/
theorem BlockToken.head?_ne_letter {dialect : Dialect} {text : Text} {t : BlockToken}
    (h : t ∈ scan dialect text) : (text.drop t.start).head? ≠ some 'l' := by
  cases dialect with
  | blade =>
    obtain ⟨m, hm, ht⟩ := List.mem_filterMap.mp h
    have hstarts := (Pattern.mem_findAll hm).starts (some 'l') rfl
    rw [ofDirective?] at ht
    split at ht
    · cases ht
    · obtain rfl := Option.some.inj ht
      exact hstarts
  | antlers =>
    obtain ⟨tag, htag, ht⟩ := List.mem_filterMap.mp h
    obtain ⟨role, -, rfl⟩ := Option.map_eq_some_iff.mp ht
    obtain ⟨m, hm, rfl⟩ := List.mem_map.mp htag
    exact (Pattern.mem_findAll hm).starts (some 'l') rfl
  | unknown => cases h

namespace TemplateAnalysis

variable {h : Heuristics} {o : AnalysisOptions} {s : TemplateSource} {a : TemplateAnalysis}
  {ctx : AnalysisContext}

/-- An issue about a loop without pagination has the cap of the loop. -/
theorem issuesOf_capped (o : AnalysisOptions) (m : Metrics) :
    Finds (fun f => f.rule = String.toList "unpaginated_loop" → LoopDetectors.Capped ctx f)
      (issuesOf o ctx m) := by
  -- the other detectors find something of other rules
  have hother : ∀ {rules severity f}, ctx.Tells rules severity f →
      String.toList "unpaginated_loop" ∉ rules → f.rule ≠ "unpaginated_loop" := by
    intro rules severity f htells hnot hrule
    exact hnot (hrule ▸ htells.rule_mem)
  intro issues hissues
  obtain ⟨complex, load, size, whole, hcomplex, hload, hsize, hwhole, rfl⟩ := issuesOf_eq_ok hissues
  intro f hf hrule
  simp only [List.mem_append] at hf
  rcases hf with hf | (hf | hf) | hf
  · exact absurd hrule (hother (complexity_finds complex hcomplex f hf) (by decide))
  · have htells := runAll_ite_finds LoopDetectors.loadDetectors_finds load hload f hf
    exact absurd hrule (hother htells (by decide))
  · exact runAll_ite_finds LoopDetectors.sizeDetectors_capped size hsize f hf hrule
  · exact absurd hrule (hother (Issues.detectors_finds whole hwhole f hf) (by decide))

/-- The cap that is found in the opener of a loop is a cap of the document. -/
theorem exists_capAt_of_capped {path text : Text} {dialect : Dialect} {f : Finding}
    (hf : LoopDetectors.Capped (AnalysisContext.ofText path text dialect h) f) :
    ∃ start digits, CapAt text start digits ∧
      f.details.get? "limit" = some (.count (digitsValue digits)) := by
  obtain ⟨b, hb, m, hm, rfl⟩ := hf
  have hplaced := StructureRules.loop_placedIn hb
  have htoken := (List.mem_filter.mp (Pairing.ends_mem hb).1).1
  have hcap := (capAt_of_find? hm).of_slice hplaced.standsAt.reads (BlockToken.head?_ne_letter htoken)
  exact ⟨_, _, hcap, rfl⟩

/-- **A loop whose reported cap is too large is told as a risk of the document.**  That risk is told
exactly if some cap of the document, in the opener of a loop or elsewhere, is above the threshold, and in
the line of the first such cap. -/
theorem ofSource_overlarge (ha : ofSource h o s = .ok a) :
    (∀ f ∈ a.issues, f.rule = "unpaginated_loop" → ∃ cap, f.details.get? "limit" = some (.count cap) ∧
      (EdgeCases.Exceeds h.memoryLimitThreshold cap →
        ∃ e ∈ a.edgeCases, e.kind = "memory_intensive")) ∧
    ((∃ e ∈ a.edgeCases, e.kind = "memory_intensive") ↔ ∃ start digits, CapAt s.text start digits ∧
      EdgeCases.Exceeds h.memoryLimitThreshold (digitsValue digits)) ∧
    ∀ e ∈ a.edgeCases, e.kind = "memory_intensive" → ∃ start digits,
      EdgeCases.FirstExcess h.memoryLimitThreshold s.text start digits ∧
        e.line = some (((s.text.take start).count '\n' + 1 : Nat) : Int) := by
  obtain ⟨-, hissues, -, hedge, -⟩ := ofSource_eq_ok ha
  obtain ⟨told, htold, hmem⟩ := EdgeCases.mem_memory_iff hedge
  have hiff : (∃ e ∈ a.edgeCases, e.kind = "memory_intensive") ↔ ∃ start digits,
      CapAt s.text start digits ∧ EdgeCases.Exceeds h.memoryLimitThreshold (digitsValue digits) := by
    rcases EdgeCases.memory_eq_ok htold with ⟨rfl, hnone⟩ | ⟨start, digits, hfirst, rfl⟩
    · refine iff_of_false ?_ ?_
      · rintro ⟨e, he⟩
        cases (hmem e).mpr he
      · rintro ⟨start, digits, hcap, hexceeds⟩
        exact hnone start digits hcap hexceeds
    · refine iff_of_true ⟨_, (hmem _).mp (List.mem_singleton.mpr rfl)⟩ ?_
      exact ⟨start, digits, hfirst.capAt, hfirst.exceeds⟩
  refine ⟨fun f hf hrule => ?_, hiff, fun e he hkind => ?_⟩
  · obtain ⟨start, digits, hcap, hlimit⟩ :=
      exists_capAt_of_capped (issuesOf_capped o a.metrics a.issues hissues f hf hrule)
    exact ⟨_, hlimit, fun hexceeds => hiff.mpr ⟨start, digits, hcap, hexceeds⟩⟩
  · have hin := (hmem e).mpr ⟨he, hkind⟩
    rcases EdgeCases.memory_eq_ok htold with ⟨rfl, -⟩ | ⟨start, digits, hfirst, rfl⟩
    · cases hin
    · obtain rfl := List.mem_singleton.mp hin
      refine ⟨start, digits, hfirst, ?_⟩
      rw [← Position.line_eq]
      rfl

/-- A loop with a cap that is too large, behind a line with another one. -/
theorem ofSource_overlarge_blog :
    let text : Text := "->take( 1500 )\n\x7b\x7b collection:blog limit=\"2000\" \x7d\x7d\n" ++
      "\x7b\x7b /collection:blog \x7d\x7d"
    let s : TemplateSource := ⟨"blog.antlers.html", .antlers, text, 0⟩
    ∃ a : TemplateAnalysis, ofSource Heuristics.default {} s = .ok a ∧
      (∃ f ∈ a.issues, f.rule = "unpaginated_loop" ∧
        f.details.get? "limit" = some (.count 2000)) ∧
      (∃ e ∈ a.edgeCases, e.kind = "memory_intensive") ∧ a.edgeCases.map EdgeCase.line = [some 1] ∧
      ∃ start digits, CapAt text start digits ∧
        EdgeCases.Exceeds Heuristics.default.memoryLimitThreshold (digitsValue digits) := by
  intro text s
  have hrun : (do
      let a ← ofSource Heuristics.default {} s
      pure (a.issues.map fun f : Finding => (f.rule, f.details.get? "limit"),
        a.edgeCases.map EdgeCase.line)) =
        .ok ([(("unpaginated_loop" : Text), some (Value.count 2000))], [some 1]) := by
    decide +kernel
  obtain ⟨a, ha, hrun⟩ := Answers.bind_eq_ok hrun
  obtain ⟨hissues, hrisks⟩ := Prod.mk.inj (Except.ok.inj hrun)
  obtain ⟨f, hf, heq⟩ := List.mem_map.mp (hissues ▸ List.mem_cons_self)
  obtain ⟨hrule, hlimit⟩ := Prod.mk.inj heq
  obtain ⟨htold, hiff, -⟩ := ofSource_overlarge ha
  obtain ⟨cap, hcap, hexceeds⟩ := htold f hf hrule
  obtain rfl : 2000 = cap :=
    Int.ofNat.inj (Number.int.inj (Value.number.inj (Option.some.inj (hlimit.symm.trans hcap))))
  have hrisk := hexceeds (by decide +kernel)
  exact ⟨a, ha, ⟨f, hf, hrule, hlimit⟩, hrisk, hrisks, hiff.mp hrisk⟩

end TemplateAnalysis
end TemplateLint
