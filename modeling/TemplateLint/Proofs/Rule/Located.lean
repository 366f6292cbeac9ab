import TemplateLint.Lint
import TemplateLint.Proofs.Block.Roles
import TemplateLint.Proofs.Text.LineIndex
import TemplateLint.Proofs.Text.Matches

/-!
# Findings stand where they say

Every finding names a line of its document.  If it names a column, the column lies inside that line and
the document goes on with the evidence there.  The line rules count the columns of a match in its line;
the document rules map offsets of the whole document back to lines and columns.  Both come down to a
pattern that starts with a character of the line (`Pattern.startsNot`): a match of no length could
stand behind the last column.
-/
namespace TemplateLint

open Text

/-- A finding stands where it says. -/
structure Finding.LocatedIn (text : Text) (f : Finding) : Prop where
  line_pos : 1 ≤ f.line
  line_le : f.line ≤ text.count '\n' + 1
  column : ∀ column, f.column = some column →
    1 ≤ column ∧ (∃ line, text.lines[(f.line - 1).toNat]? = some line ∧ column ≤ line.length) ∧
      ∃ evidence, f.evidence = some evidence ∧ evidence <+: text.drop (offsetOf text f.line column)

/-- A text goes on at an offset with the given evidence, and not with a line end. -/
structure StandsAt (text : Text) (offset : Nat) (evidence : Text) : Prop where
  offset_le : offset ≤ text.length
  reads : evidence <+: text.drop offset
  visible : ∃ c, (text.drop offset).head? = some c ∧ c ≠ '\n'

/-- A finding names the line and the column of an offset. -/
structure Finding.ToldAt (text : Text) (offset : Nat) (f : Finding) : Prop where
  line : f.line = (Position.ofOffset text offset).line
  column : f.column = some ((Position.ofOffset text offset).column : Int)

/-! ## From offsets to findings -/

/-- A finding names one offset only. -/
theorem Finding.ToldAt.offset_eq {text : Text} {offset offset' : Nat} {f : Finding}
    (h : f.ToldAt text offset) (h' : f.ToldAt text offset') : offset = offset' := by
  rw [← Position.offsetOf_ofOffset text offset, ← Position.offsetOf_ofOffset text offset',
    ← h.line, ← h'.line, ← Option.some.inj (h.column.symm.trans h'.column)]

theorem StandsAt.shorten {text evidence shorter : Text} {offset : Nat}
    (h : StandsAt text offset evidence) (hshorter : shorter <+: evidence) :
    StandsAt text offset shorter :=
  { h with reads := hshorter.trans h.reads }

/-- A match of a pattern that starts with a character of the line. -/
theorem Pattern.FoundIn.standsAt {pattern : Pattern} {text : Text} {m : Match}
    (h : FoundIn pattern text m) (hend : pattern.startsNot none = true)
    (hnewline : pattern.startsNot (some '\n') = true) : StandsAt text m.start m.text := by
  refine ⟨h.start_le, h.reads, ?_⟩
  cases hhead : (text.drop m.start).head? with
  | none => exact absurd hhead (h.starts none hend)
  | some c =>
    refine ⟨c, rfl, ?_⟩
    rintro rfl
    exact h.starts _ hnewline hhead

/-- The line of an index is counted from one. -/
private theorem index_lt_count {text line : Text} {index : Nat}
    (h : text.lines[index]? = some line) : index < text.count '\n' + 1 := by
  have hlength := length_lines text
  rw [lineCount] at hlength
  rw [← hlength]
  exact (List.getElem?_eq_some_iff.mp h).1

/-- A finding at the position of an offset at which its evidence stands. -/
theorem StandsAt.locatedIn {text evidence : Text} {offset : Nat} {f : Finding}
    (h : StandsAt text offset evidence) (hline : f.line = (Position.ofOffset text offset).line)
    (hcolumn : f.column = none ∨ f.column = some ((Position.ofOffset text offset).column : Int))
    (hevidence : f.evidence = some evidence) : f.LocatedIn text := by
  obtain ⟨index, passed, current, hcur, hpassed, hsum, hposition⟩ :=
    Position.ofOffset_spec h.offset_le
  rw [hposition] at hline hcolumn
  change f.line = ((index + 1 : Nat) : Int) at hline
  have hindex := index_lt_count hcur
  refine ⟨by omega, by omega, fun column hc => ?_⟩
  rcases hcolumn with hnone | hsome
  · rw [hnone] at hc
    cases hc
  · obtain rfl : ((passed + 1 : Nat) : Int) = column := Option.some.inj (hsome.symm.trans hc)
    have hi : (f.line - 1).toNat = index := by omega
    have hp : (((passed + 1 : Nat) : Int) - 1).toNat = passed := by omega
    refine ⟨by omega, ⟨current, by rw [hi]; exact hcur, ?_⟩, evidence, hevidence, ?_⟩
    · obtain ⟨c, hhead, hne⟩ := h.visible
      rw [← hsum] at hhead
      have hlt := Position.lt_length_of_ne_newline hcur hpassed hhead hne
      omega
    · rw [offsetOf, hi, hp, hsum]
      exact h.reads

/-! ## Line rules -/

/-- Every pattern of a rule starts by reading a character. -/
def LineRule.ReadsText (rule : LineRule) : Prop :=
  ∀ group ∈ rule.groups, ∀ p ∈ group, p.pattern.startsNot none = true

/-- A finding in a line stands there. -/
theorem LineRule.findingsIn_locatedIn {rule : LineRule} (hrule : rule.ReadsText) {text line : Text}
    {index : Nat} (hline : text.lines[index]? = some line) {f : Finding}
    (hf : f ∈ rule.findingsIn (index + 1) line) : f.LocatedIn text := by
  obtain ⟨found, hfound, rfl⟩ := List.mem_map.mp hf
  rw [matchesIn] at hfound
  split at hfound
  · cases hfound
  obtain ⟨group, hgroup, hfirst⟩ := List.mem_filterMap.mp hfound
  obtain ⟨p, hp, hmatch⟩ := List.exists_of_findSome?_eq_some hfirst
  obtain ⟨m, hm, rfl⟩ := Option.map_eq_some_iff.mp hmatch
  have hin := Pattern.find?_eq_some hm
  -- a match behind the last character would start with nothing
  have hlt : m.start < line.length := by
    apply Nat.lt_of_not_le
    intro hle
    apply hin.starts none (hrule group hgroup p hp)
    rw [List.drop_eq_nil_of_le hle, List.head?_nil]
  have hindex := index_lt_count hline
  refine ⟨?_, ?_, fun column hc => ?_⟩
  · show (1 : Int) ≤ ((index + 1 : Nat) : Int)
    omega
  · show ((index + 1 : Nat) : Int) ≤ _
    omega
  obtain rfl : (m.start : Int) + 1 = column := Option.some.inj hc
  have hi : (((index + 1 : Nat) : Int) - 1).toNat = index := by omega
  have hs : ((m.start : Int) + 1 - 1).toNat = m.start := by omega
  refine ⟨by omega, ⟨line, ?_, by omega⟩, m.text, rfl, ?_⟩
  · show text.lines[(((index + 1 : Nat) : Int) - 1).toNat]? = some line
    rw [hi, hline]
  · -- the document goes on with the line where the line starts
    show m.text <+: text.drop (offsetOf text ((index + 1 : Nat) : Int) _)
    obtain ⟨after, hafter, -⟩ := drop_lineStart hline
    rw [offsetOf, hi, hs, ← List.drop_drop, hafter, List.drop_append_of_le_length (by omega)]
    exact hin.reads.trans (List.prefix_append _ _)

/-- Where the lines of a document from an index on are looked at, every finding stands in it. -/
theorem Linter.lineFindings_locatedIn {rules : List LineRule} (hrules : ∀ r ∈ rules, r.ReadsText)
    {text : Text} {lines : List Text} {index : Nat} (hlines : text.lines.drop index = lines)
    {f : Finding} (hf : f ∈ lineFindings rules (index + 1) lines) : f.LocatedIn text := by
  induction lines generalizing index with
  | nil => cases hf
  | cons line lines ih =>
    rw [lineFindings] at hf
    rcases List.mem_append.mp hf with hf | hf
    · obtain ⟨rule, hrule, hf⟩ := List.mem_flatMap.mp hf
      have hline : text.lines[index]? = some line := by
        rw [← Nat.add_zero index, ← List.getElem?_drop, hlines]
        rfl
      exact rule.findingsIn_locatedIn (hrules rule hrule) hline hf
    · refine ih ?_ hf
      rw [← List.drop_drop, hlines]
      rfl

/-- The ways to call an accessor start with a character, whatever its name. -/
theorem PolicyRules.accessorGroup_startsNot (name : Text) :
    ∀ p ∈ accessorGroup name, p.pattern.startsNot none = true := by
  intro p hp
  simp only [accessorGroup, List.mem_cons, List.not_mem_nil, or_false] at hp
  rcases hp with rfl | rfl | rfl | rfl
  · rfl
  · rfl
  · rfl
  · cases name <;> rfl

instance (rule : LineRule) : Decidable rule.ReadsText :=
  inferInstanceAs (Decidable (∀ group ∈ rule.groups, ∀ p ∈ group, _))

/-- The rules about markup start with a character. -/
theorem MarkupRules.readsText :
    ∀ r ∈ security ++ accessibility ++ strict, r.ReadsText := by
  decide

/-- The rules about policies start with a character, whatever the policy forbids. -/
theorem PolicyRules.ofPolicy_readsText (policy : Policy) :
    ∀ r ∈ ofPolicy policy, r.ReadsText := by
  have honly : ∀ {flag : Bool} {rule r : LineRule}, rule.ReadsText → r ∈ onlyIf flag rule →
      r.ReadsText := by
    intro flag rule r hrule hr
    cases flag with
    | false => cases hr
    | true => exact List.mem_singleton.mp hr ▸ hrule
  have hfacade : ∀ names, (facadeCall names).ReadsText := by
    intro names group hgroup
    obtain ⟨name, -, rfl⟩ := List.mem_map.mp hgroup
    exact accessorGroup_startsNot name
  intro r hr
  simp only [ofPolicy, List.mem_append] at hr
  rcases hr with ((((hr | hr) | hr) | hr) | hr) | hr
  · exact honly (by decide) hr
  · exact honly (hfacade _) hr
  · exact honly (by decide) hr
  · revert r
    decide
  · exact honly (by decide) hr
  · exact honly (by decide) hr

/-- The rules that run for a dialect all start with a character. -/
theorem RuleSet.lineRules_readsText (policy : Policy) (dialect : Dialect) (strict : Bool) :
    ∀ r ∈ (select policy dialect strict).lineRules, r.ReadsText := by
  have hmarkup := MarkupRules.readsText
  simp only [List.mem_append] at hmarkup
  intro r hr
  simp only [select, List.mem_filter, List.mem_append] at hr
  rcases hr.1 with ((hpolicy | hsecure) | haccess) | hstrict
  · exact PolicyRules.ofPolicy_readsText policy r hpolicy
  · exact hmarkup r (Or.inl (Or.inl hsecure))
  · split at haccess
    · exact hmarkup r (Or.inl (Or.inr haccess))
    · cases haccess
  · split at hstrict
    · exact hmarkup r (Or.inr hstrict)
    · cases hstrict

/-! ## Document rules -/

/-- The token stands at its start, and its position is that of its start. -/
structure BlockToken.PlacedIn (text : Text) (t : BlockToken) : Prop where
  position_eq : t.position = Position.ofOffset text t.start
  standsAt : StandsAt text t.start t.text

/-- The tags of a text stand where they start. -/
theorem Tag.scan_standsAt {text : Text} {t : Tag} (h : t ∈ Tag.scan text) :
    StandsAt text t.start t.raw := by
  obtain ⟨m, hm, rfl⟩ := List.mem_map.mp h
  exact (Pattern.mem_findAll hm).standsAt rfl rfl

/-- The tokens of a text stand where they start. -/
theorem BlockToken.scan_placedIn {dialect : Dialect} {text : Text} {t : BlockToken}
    (h : t ∈ scan dialect text) : t.PlacedIn text := by
  cases dialect with
  | blade =>
    obtain ⟨m, hm, ht⟩ := List.mem_filterMap.mp h
    have hstands := (Pattern.mem_findAll hm).standsAt rfl rfl
    rw [ofDirective?] at ht
    split at ht
    · cases ht
    · obtain rfl := Option.some.inj ht
      exact ⟨rfl, { hstands with reads := List.take_prefix _ _ }⟩
  | antlers =>
    obtain ⟨tag, htag, ht⟩ := List.mem_filterMap.mp h
    obtain ⟨role, -, rfl⟩ := Option.map_eq_some_iff.mp ht
    exact ⟨rfl, Tag.scan_standsAt htag⟩
  | unknown => cases h

/-- A finding at the position of a token, with the start of its text as evidence. -/
theorem BlockToken.PlacedIn.locatedIn {text evidence : Text} {t : BlockToken} {f : Finding}
    (h : t.PlacedIn text) (hline : f.line = t.position.line)
    (hcolumn : f.column = none ∨ f.column = some (t.position.column : Int))
    (hevidence : f.evidence = some evidence) (hstart : evidence <+: t.text) : f.LocatedIn text := by
  rw [h.position_eq] at hline hcolumn
  exact (h.standsAt.shorten hstart).locatedIn hline hcolumn hevidence

namespace StructureRules

variable {ctx : RuleContext} {f : Finding}

theorem blockBalance_locatedIn (hf : f ∈ blockBalance ctx) : f.LocatedIn ctx.text := by
  rcases List.mem_append.mp hf with hf | hf
  · obtain ⟨t, ht, rfl⟩ := List.mem_map.mp hf
    have hplaced := BlockToken.scan_placedIn (Pairing.mem_of_mem_unmatched ht)
    exact hplaced.locatedIn rfl (Or.inr rfl) rfl (List.prefix_refl _)
  · obtain ⟨t, ht, rfl⟩ := List.mem_map.mp hf
    have hplaced := BlockToken.scan_placedIn (Pairing.mem_of_mem_unclosed ht)
    exact hplaced.locatedIn rfl (Or.inr rfl) rfl <| List.take_prefix 100 _

/-- The openings without an end are among the openings. -/
theorem mem_of_mem_unterminated {text : Text} {openings : List Nat} {start : Nat}
    (h : start ∈ unterminated text openings) : start ∈ openings := by
  induction openings with
  | nil => cases h
  | cons first rest ih =>
    simp only [unterminated] at h
    split at h
    · exact List.mem_cons_of_mem first (ih h)
    · rcases List.mem_cons.mp h with rfl | h
      · exact List.mem_cons_self
      · exact List.mem_cons_of_mem first (ih h)

theorem unterminatedTag_locatedIn (hf : f ∈ unterminatedTag ctx) : f.LocatedIn ctx.text := by
  obtain ⟨start, hstart, rfl⟩ := List.mem_map.mp hf
  obtain ⟨m, hm, rfl⟩ := List.mem_map.mp (mem_of_mem_unterminated hstart)
  have hstands := (Pattern.mem_findAll hm).standsAt rfl rfl
  have hcut : Text.slice ctx.text m.start (m.start + 40) <+: ctx.text.drop m.start :=
    List.take_prefix _ _
  have hline : (Text.slice ctx.text m.start (m.start + 40)).takeWhile (· != '\n') <+:
      Text.slice ctx.text m.start (m.start + 40) := List.takeWhile_prefix _
  exact StandsAt.locatedIn { hstands with reads := hline.trans hcut } rfl (Or.inr rfl) rfl

theorem componentNaming_locatedIn (hf : f ∈ componentNaming ctx) : f.LocatedIn ctx.text := by
  obtain ⟨m, hm, rfl⟩ := List.mem_map.mp hf
  have hstands := (Pattern.mem_findAll (List.mem_filter.mp hm).1).standsAt rfl rfl
  exact hstands.locatedIn rfl (Or.inr rfl) rfl

/-- The opener of a loop stands where it starts. -/
theorem loop_placedIn {dialect : Dialect} {text : Text} {b : Block} (hb : b ∈ loopsOf dialect text) :
    b.opener.PlacedIn text :=
  BlockToken.scan_placedIn (List.mem_filter.mp (Pairing.ends_mem hb).1).1

theorem nestedLoops_locatedIn {dialect : Dialect} {text : Text} (hf : f ∈ nestedLoops dialect text) :
    f.LocatedIn text := by
  obtain ⟨nest, hnest, rfl⟩ := List.mem_map.mp hf
  obtain ⟨b, hb, hof⟩ := List.mem_filterMap.mp hnest
  have houter : nest.outer = b := by
    rw [LoopNest.ofLoop?] at hof
    split at hof
    · cases hof
    · split at hof
      · cases hof
      · exact (congrArg LoopNest.outer (Option.some.inj hof)).symm
  have hplaced := loop_placedIn hb
  rw [← houter] at hplaced
  exact hplaced.locatedIn rfl (Or.inr rfl) rfl <| List.take_prefix 100 _

theorem loopPropertyAccess_locatedIn (hf : f ∈ loopPropertyAccess ctx) : f.LocatedIn ctx.text := by
  obtain ⟨b, hb, hof⟩ := List.mem_filterMap.mp hf
  have hplaced := loop_placedIn (List.mem_filter.mp hb).1
  dsimp only at hof
  split at hof
  · obtain rfl := Option.some.inj hof
    exact hplaced.locatedIn rfl (Or.inl rfl) rfl <| List.take_prefix 100 _
  · cases hof

end StructureRules

namespace TagRules

variable {ctx : RuleContext} {f : Finding}

/-- A finding about a tag, whatever its rule says. -/
def AboutTag (ctx : RuleContext) (t : Tag) (f : Finding) : Prop :=
  ∃ rule category severity message suggestion,
    f = tagFinding ctx t rule category severity message suggestion

/-- A finding about a tag of the document stands in it. -/
theorem AboutTag.locatedIn {t : Tag} (h : AboutTag ctx t f) (ht : t ∈ Tag.scan ctx.text) :
    f.LocatedIn ctx.text := by
  obtain ⟨rule, category, severity, message, suggestion, rfl⟩ := h
  have hstands := (Tag.scan_standsAt ht).shorten <| List.take_prefix 100 _
  exact hstands.locatedIn rfl (Or.inr rfl) rfl

theorem aboutTag_of_mem_singleton {t : Tag} {rule message : Text} {category : Category}
    {severity : Severity} {suggestion : Option Text}
    (hf : f ∈ [tagFinding ctx t rule category severity message suggestion]) : AboutTag ctx t f :=
  ⟨rule, category, severity, message, suggestion, List.mem_singleton.mp hf⟩

variable {t : Tag}

theorem unknownNamespace_aboutTag (hf : f ∈ unknownNamespace ctx t) : AboutTag ctx t f := by
  rw [unknownNamespace] at hf
  split at hf
  · cases hf
  · exact aboutTag_of_mem_singleton hf

theorem emptyControl_aboutTag (hf : f ∈ emptyControl ctx t) : AboutTag ctx t f := by
  rw [emptyControl] at hf
  split at hf
  · exact aboutTag_of_mem_singleton hf
  · split at hf
    · exact aboutTag_of_mem_singleton hf
    · cases hf

theorem collectionParams_aboutTag (hf : f ∈ collectionParams ctx t) : AboutTag ctx t f := by
  rw [collectionParams] at hf
  split at hf
  · exact aboutTag_of_mem_singleton hf
  · cases hf

theorem glideParams_aboutTag (hf : f ∈ glideParams ctx t) : AboutTag ctx t f := by
  rw [glideParams] at hf
  split at hf
  · exact aboutTag_of_mem_singleton hf
  · cases hf

theorem unknownModifier_aboutTag (hf : f ∈ unknownModifier ctx t) : AboutTag ctx t f := by
  obtain ⟨modifier, -, rfl⟩ := List.mem_map.mp hf
  exact aboutTag_of_mem_singleton (List.mem_singleton.mpr rfl)

theorem unknownField_aboutTag {name : Text} (hf : f ∈ unknownField ctx t name) :
    AboutTag ctx t f := by
  rw [unknownField] at hf
  split at hf
  · exact aboutTag_of_mem_singleton hf
  · cases hf

theorem typedField_aboutTag {name type : Text} (hf : f ∈ typedField ctx t name type) :
    AboutTag ctx t f := by
  rw [typedField] at hf
  split_ifs at hf
  · exact aboutTag_of_mem_singleton hf
  · exact aboutTag_of_mem_singleton hf
  · exact aboutTag_of_mem_singleton hf
  · exact aboutTag_of_mem_singleton hf
  · cases hf

theorem fieldUse_aboutTag (hf : f ∈ fieldUse ctx t) : AboutTag ctx t f := by
  rw [fieldUse] at hf
  split at hf
  · cases hf
  · split at hf
    · exact unknownField_aboutTag hf
    · exact typedField_aboutTag hf

/-- A rule over the opening tags finds something about a tag of the document. -/
theorem overTags_locatedIn {check : RuleContext → Tag → List Finding}
    (hcheck : ∀ {t f}, f ∈ check ctx t → AboutTag ctx t f) (hf : f ∈ overTags check ctx) :
    f.LocatedIn ctx.text := by
  obtain ⟨t, ht, hf⟩ := List.mem_flatMap.mp hf
  exact (hcheck hf).locatedIn (List.mem_filter.mp ht).1

theorem fieldUsage_locatedIn (hf : f ∈ fieldUsage ctx) : f.LocatedIn ctx.text := by
  obtain ⟨t, ht, hf⟩ := List.mem_flatMap.mp hf
  rw [fieldTags] at ht
  split at ht
  · cases ht
  · have hscan := (List.mem_filter.mp (List.mem_filter.mp ht).1).1
    exact (fieldUse_aboutTag hf).locatedIn hscan

end TagRules

/-- Whatever a document rule reports stands in the document. -/
theorem DocumentRule.check_locatedIn {rule : DocumentRule} {ctx : RuleContext} {f : Finding}
    (hf : f ∈ rule.check ctx) : f.LocatedIn ctx.text := by
  cases rule with
  | blockBalance => exact StructureRules.blockBalance_locatedIn hf
  | unterminatedTag => exact StructureRules.unterminatedTag_locatedIn hf
  | componentNaming => exact StructureRules.componentNaming_locatedIn hf
  | nestedLoop => exact StructureRules.nestedLoops_locatedIn hf
  | loopPropertyAccess => exact StructureRules.loopPropertyAccess_locatedIn hf
  | unknownNamespace => exact TagRules.overTags_locatedIn TagRules.unknownNamespace_aboutTag hf
  | emptyControl => exact TagRules.overTags_locatedIn TagRules.emptyControl_aboutTag hf
  | collectionParams => exact TagRules.overTags_locatedIn TagRules.collectionParams_aboutTag hf
  | glideParams => exact TagRules.overTags_locatedIn TagRules.glideParams_aboutTag hf
  | unknownModifier => exact TagRules.overTags_locatedIn TagRules.unknownModifier_aboutTag hf
  | fieldUsage => exact TagRules.fieldUsage_locatedIn hf

/-! ## Rules that can be checked -/

/-- If what the rules compare with is of the right kind, none of them has a fault. -/
theorem DocumentRule.fault?_eq_none {ctx : RuleContext} (hpolicy : ctx.policy.accepted = true)
    (hheuristics : ctx.heuristics.accepted = true)
    (hfields : ctx.fields.all (·.2.isText) = true) (rule : DocumentRule) :
    rule.fault? ctx = none := by
  simp only [Policy.accepted, Bool.and_eq_true] at hpolicy
  cases rule with
  | loopPropertyAccess =>
    have hnumber : ctx.heuristics.propertyAccessThreshold.isNumber = true :=
      Heuristics.isNumber_of_accepted hheuristics (by simp [Heuristics.thresholds])
    rw [fault?, StructureRules.thresholdFault?, if_pos hnumber]
  | unknownNamespace =>
    rw [fault?, TagRules.namespaceFault?, TagRules.overTagsFault?, if_pos hpolicy.1.2]
  | unknownModifier =>
    rw [fault?, TagRules.modifierFault?, TagRules.overTagsFault?, if_pos hpolicy.2]
  | fieldUsage => rw [fault?, TagRules.fieldFault?, if_pos hfields]
  | _ => rfl

namespace Linter

/-- Whatever a linter reports stands in the document. -/
theorem check_locatedIn {l : Linter} {text : Text} {dialect : Dialect} {fields : Entries Value}
    {f : Finding} (hf : f ∈ l.check text dialect fields) : f.LocatedIn text := by
  rcases List.mem_append.mp hf with hf | hf
  · have hrules := RuleSet.lineRules_readsText l.policy dialect l.strict
    exact lineFindings_locatedIn hrules (List.drop_zero) hf
  · obtain ⟨rule, -, hf⟩ := List.mem_flatMap.mp hf
    exact rule.check_locatedIn hf

theorem fault?_eq_none {l : Linter} (hpolicy : l.policy.accepted = true)
    (hheuristics : l.heuristics.accepted = true) (text : Text) (dialect : Dialect)
    {fields : Entries Value} (hfields : fields.all (·.2.isText) = true) :
    l.fault? text dialect fields = none := by
  refine List.findSome?_eq_none_iff.mpr fun rule _ => ?_
  have hp : (l.context text dialect fields).policy.accepted = true := hpolicy
  exact rule.fault?_eq_none hp hheuristics hfields

/-- **Every finding stands where it says.**  A linter whose policy and heuristics may be used reports
only findings that lie in the document, with their evidence at their line and column; it reports
nothing only if the type of a field is no text. -/
theorem findings_locatedIn (l : Linter) (hpolicy : l.policy.accepted = true)
    (hheuristics : l.heuristics.accepted = true) (text : Text) (dialect : Dialect)
    (fields : Entries Value) :
    match l.findings text dialect fields with
    | .ok found => ∀ f ∈ found, f.LocatedIn text
    | .error _ => fields.all (·.2.isText) = false := by
  rw [findings]
  cases hfault : l.fault? text dialect fields with
  | none => exact fun f hf => check_locatedIn hf
  | some fault =>
    -- only the type of a field is not checked before
    cases hfields : fields.all (·.2.isText) with
    | false => rfl
    | true =>
      rw [fault?_eq_none hpolicy hheuristics text dialect hfields] at hfault
      cases hfault

/-- The default policy and heuristics may be used. -/
theorem findings_locatedIn_default :
    let l : Linter := ⟨Policy.default, Heuristics.default, true⟩
    let text : Text := "a\nb \x7b\x7b !! \x7b\x7b /if \x7d\x7d"
    match l.findings text .antlers [] with
    | .ok found => ∀ f ∈ found, f.LocatedIn text
    | .error _ => ([] : Entries Value).all (·.2.isText) = false :=
  findings_locatedIn ⟨Policy.default, Heuristics.default, true⟩ (by decide +kernel)
    (by decide +kernel) _ .antlers []

end Linter

end TemplateLint
