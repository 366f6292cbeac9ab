import TemplateLint.Proofs.Fix.Image
import TemplateLint.Proofs.Rule.Reported

/-!
# Findings and their fixes

Which fix a finding has depends on its rule and its line only, so whatever else is found, there is at
most one fix for a rule in a line (`Fix.filter_ofFindings`).  A finding about an image points at the
first image tag without an alternative text under the key of the rule (`Linter.image_of_finding`), its
fix writes over the first one under the key of the replacer.  So the fix is about the image of the
finding exactly if that image is the first one under either key (`Linter.imageFix_agrees_iff`).
-/
namespace TemplateLint

open Pattern

namespace Fix

/-- The rule and the line that a fix is for. -/
def key : Fix → Text × Int
  | replacement rule line _ _ _ => (rule, line)
  | alternatives rule line _ _ => (rule, line)

/-- What a fix writes over, if it does. -/
def found? : Fix → Option Text
  | replacement _ _ _ found _ => some found
  | alternatives _ _ _ _ => none

variable {f g : Finding} {fix : Fix} {line : Text}

/-- The fix for a finding is for its rule and its line. -/
theorem key_of_ofFinding? (h : ofFinding? f line = some fix) : fix.key = (f.rule, f.line) := by
  rcases Option.or_eq_some_iff.mp h with h | ⟨-, h⟩
  · obtain ⟨r, -, hr⟩ := List.exists_of_findSome?_eq_some h
    obtain ⟨m, -, rfl⟩ := Option.map_eq_some_iff.mp hr
    rfl
  · obtain ⟨entry, -, rfl⟩ := Option.map_eq_some_iff.mp h
    rfl

/-- The fix for a finding depends on its rule and its line only. -/
theorem ofFinding?_congr (h : (g.rule, g.line) = (f.rule, f.line)) (line : Text) :
    ofFinding? g line = ofFinding? f line := by
  obtain ⟨hrule, hline⟩ := Prod.mk.inj h
  unfold ofFinding? replacementBy? alternativesFor?
  rw [hrule, hline]

/-- The fixes for a rule and a line are the fix for a finding of that rule in that line. -/
theorem filter_collect (lines : List Text) (seen : List (Text × Int)) (findings : List Finding)
    (f : Finding) : (collect lines seen findings).filter (fun fix => fix.key = (f.rule, f.line)) =
      if (f.rule, f.line) ∉ seen ∧ ∃ g ∈ findings, (g.rule, g.line) = (f.rule, f.line) then
        ((lineAt? lines f.line).bind (ofFinding? f)).toList
      else [] := by
  induction findings generalizing seen with
  | nil => simp [collect]
  | cons g rest ih =>
    have hothers : (g.rule, g.line) ≠ (f.rule, f.line) →
        ((∃ g' ∈ g :: rest, (g'.rule, g'.line) = (f.rule, f.line)) ↔
          ∃ g' ∈ rest, (g'.rule, g'.line) = (f.rule, f.line)) := by
      intro hkey
      rw [List.exists_mem_cons_iff, or_iff_right hkey]
    rw [collect]
    by_cases hkey : (g.rule, g.line) = (f.rule, f.line)
    · obtain ⟨hrule, hline⟩ := Prod.mk.inj hkey
      have hfix : (lineAt? lines g.line).bind (ofFinding? g) =
          (lineAt? lines f.line).bind (ofFinding? f) := by
        rw [hline, funext (ofFinding?_congr hkey)]
      have hhere : ∃ g' ∈ g :: rest, (g'.rule, g'.line) = (f.rule, f.line) :=
        ⟨g, List.mem_cons_self, hkey⟩
      rw [hkey, hfix]
      split
      · next hseen => rw [ih, if_neg fun h => h.1 hseen, if_neg fun h => h.1 hseen]
      · next hnew =>
        rw [if_pos ⟨hnew, hhere⟩]
        split
        · next fix hsome =>
          -- the key has its fix, so none is added for it later
          have hfixkey : fix.key = (f.rule, f.line) := by
            obtain ⟨line, -, hof⟩ := Option.bind_eq_some_iff.mp hsome
            exact key_of_ofFinding? hof
          rw [List.filter_cons, if_pos (decide_eq_true hfixkey), ih,
            if_neg fun h => h.1 List.mem_cons_self, hsome]
          rfl
        · next hnone =>
          rw [ih, hnone]
          split <;> rfl
    · simp only [hothers hkey]
      split
      · exact ih seen
      · split
        · next fix hsome =>
          have hfixkey : fix.key = (g.rule, g.line) := by
            obtain ⟨line, -, hof⟩ := Option.bind_eq_some_iff.mp hsome
            exact key_of_ofFinding? hof
          have hnot : ¬ decide (fix.key = (f.rule, f.line)) = true := by
            rw [hfixkey, decide_eq_true_eq]
            exact hkey
          rw [List.filter_cons, if_neg hnot, ih]
          simp only [List.mem_cons, or_iff_right (Ne.symm hkey)]
        · exact ih seen

/-- **At most one fix for a rule in a line**, the same for each of its findings there. -/
theorem filter_ofFindings {text : Text} {findings : List Finding} (hf : f ∈ findings) :
    (ofFindings text findings).filter (fun fix => fix.key = (f.rule, f.line)) =
      ((lineAt? text.lines f.line).bind (ofFinding? f)).toList := by
  rw [ofFindings, filter_collect, if_pos ⟨List.not_mem_nil, f, hf, rfl⟩]

/-- The fix for a finding about an image writes over the first one that the replacer finds. -/
theorem ofFinding?_missingAlt (hrule : f.rule = "missing_alt_text") (line : Text) :
    ofFinding? f line = replacementBy? f line imageReplacer := by
  have hways : waysTable.lookup (String.toList "missing_alt_text") = none := by decide
  have hreplacers : replacers "missing_alt_text" = [imageReplacer] := rfl
  unfold ofFinding? alternativesFor?
  rw [hrule, hways, hreplacers, List.findSome?_singleton, Option.map_none, Option.or_none]

end Fix

/-! ## Findings about images -/

/-- Only the rule about images reports that an alternative text is missing. -/
theorem RuleSet.eq_missingAltText {policy : Policy} {dialect : Dialect} {strict : Bool} {r : LineRule}
    (hr : r ∈ (select policy dialect strict).lineRules) (hcode : r.code = "missing_alt_text") :
    r = MarkupRules.missingAltText := by
  obtain ⟨hpolicy | hmarkup, -⟩ := mem_lineRules hr
  · have hother : String.toList "missing_alt_text" ∈ PolicyRules.codes :=
      hcode ▸ PolicyRules.ofPolicy_code hpolicy
    exact absurd hother (by decide)
  · have hothers : ∀ r ∈ MarkupRules.security ++ [MarkupRules.nonDescriptiveLink,
        MarkupRules.missingFormLabel] ++ MarkupRules.strict, r.code ≠ "missing_alt_text" := by decide
    simp only [List.mem_append, MarkupRules.accessibility, List.mem_cons] at hmarkup hothers
    rcases hmarkup with (hsecure | rfl | hlabel) | hstrict
    · exact absurd hcode (hothers r (Or.inl (Or.inl hsecure)))
    · rfl
    · exact absurd hcode (hothers r (Or.inl (Or.inr hlabel)))
    · exact absurd hcode (hothers r (Or.inr hstrict))

/-- No document rule reports that an alternative text is missing. -/
theorem DocumentRule.missingAlt_not_mem (rule : DocumentRule) :
    String.toList "missing_alt_text" ∉ rule.reported := by
  cases rule <;> decide

/-- **What is reported about images**: the first image without an alternative text in its line. -/
theorem Linter.image_of_finding {l : Linter} {text : Text} {dialect : Dialect}
    {fields : Entries Value} {found : List Finding}
    (hfound : l.findings text dialect fields = .ok found) {f : Finding} (hf : f ∈ found)
    (hrule : f.rule = "missing_alt_text") : ∃ line start inside,
      Fix.lineAt? text.lines f.line = some line ∧ Image.First id line start inside ∧
        f.column = some (start + 1 : Nat) ∧ f.evidence = some (inside ++ ['>']) := by
  obtain rfl : l.check text dialect fields = found := by
    rw [findings] at hfound
    split at hfound
    · cases hfound
    · exact Except.ok.inj hfound
  rcases List.mem_append.mp hf with hf | hf
  · obtain ⟨index, line, rule, hline, hselected, hf⟩ := mem_lineFindings hf
    obtain ⟨hcode, hnumber⟩ := LineRule.findingsIn_rule hf
    obtain rfl := RuleSet.eq_missingAltText hselected (hcode ▸ hrule)
    obtain ⟨found, hfound, rfl⟩ := List.mem_map.mp hf
    have hmatches : MarkupRules.missingAltText.matchesIn line =
        (((Image.pattern id).find? line).map fun m => LineMatch.mk m.start m.stop m.text
          "Image missing alt attribute. Add alt text for accessibility.").toList := by
      have hopen : MarkupRules.missingAltText.passesOver line = false := rfl
      rw [LineRule.matchesIn, hopen, Image.missingAltText_groups]
      show List.filterMap _ [_] = _
      rw [List.filterMap_cons, List.findSome?_singleton, LineRule.matchOf?]
      cases (Image.pattern id).find? line <;> rfl
    rw [hmatches, Option.mem_toList, Option.map_eq_some_iff] at hfound
    obtain ⟨m, hm, rfl⟩ := hfound
    obtain ⟨start, inside, hfirst, rfl⟩ := (Image.find?_pattern_iff Image.key_id).mp hm
    refine ⟨line, start, inside, ?_, hfirst, rfl, rfl⟩
    show Fix.lineAt? text.lines (1 + index : Nat) = some line
    rw [Fix.lineAt?, if_pos (by omega), ← hline]
    congr 1
    omega
  · obtain ⟨rule, -, hf⟩ := List.mem_flatMap.mp hf
    exact absurd (hrule ▸ DocumentRule.check_reported hf) rule.missingAlt_not_mem

/-! ## The fix of a finding -/

/-- **Where a finding and its fix agree.**  For a finding about an image there is at most one fix in its
line, and there is one exactly if the replacer finds an image there at all.  It writes over what the
finding points at exactly if the image of the finding is the first one without regard to case as well. -/
theorem Linter.imageFix_agrees_iff {l : Linter} {text : Text} {dialect : Dialect}
    {fields : Entries Value} {found : List Finding}
    (hfound : l.findings text dialect fields = .ok found) {f : Finding} (hf : f ∈ found)
    (hrule : f.rule = "missing_alt_text") : ∃ line start inside,
      Fix.lineAt? text.lines f.line = some line ∧ Image.First id line start inside ∧
        f.column = some (start + 1 : Nat) ∧ f.evidence = some (inside ++ ['>']) ∧
      let fixes := (Fix.ofFindings text found).filter fun fix => fix.key = (f.rule, f.line)
      fixes.length ≤ 1 ∧
        (fixes.length = 1 ↔ ∃ start inside, Image.First Pattern.caseless line start inside) ∧
        (fixes.map Fix.found? = [f.evidence] ↔ Image.First Pattern.caseless line start inside) := by
  obtain ⟨line, start, inside, hline, hfirst, hcolumn, hevidence⟩ := image_of_finding hfound hf hrule
  refine ⟨line, start, inside, hline, hfirst, hcolumn, hevidence, ?_⟩
  intro fixes
  have hfixes : fixes = (((Image.pattern caseless).find? line).map fun m =>
      Fix.replacement f.rule f.line "Add alt attribute for accessibility" m.text
        (Fix.addEmptyAlt m.text)).toList := by
    show List.filter _ _ = _
    rw [Fix.filter_ofFindings hf, hline, Option.bind_some, Fix.ofFinding?_missingAlt hrule]
    rfl
  rw [hfixes]
  cases hfind : (Image.pattern caseless).find? line with
  | none =>
    have hnone : ∀ start inside, ¬ Image.First caseless line start inside := by
      intro start inside h
      rw [(Image.find?_pattern_iff Image.key_caseless).mpr ⟨start, inside, h, rfl⟩] at hfind
      cases hfind
    simp [hnone]
  | some m =>
    obtain ⟨start', inside', hfirst', rfl⟩ := (Image.find?_pattern_iff Image.key_caseless).mp hfind
    refine ⟨Nat.le_refl 1, ⟨fun _ => ⟨start', inside', hfirst'⟩, fun _ => rfl⟩, ?_⟩
    show [some (inside' ++ ['>'])] = [f.evidence] ↔ _
    rw [hevidence, List.singleton_inj, Option.some.injEq, List.append_cancel_right_eq]
    constructor
    · rintro rfl
      -- the same text is no first image at two places
      have hle : start' ≤ start := Nat.le_of_not_lt fun hlt =>
        hfirst'.first start hlt _ hfirst.stands hfirst'.undescribed
      have hge : start ≤ start' := Nat.le_of_not_lt fun hlt =>
        hfirst.first start' hlt _ hfirst'.stands hfirst.undescribed
      obtain rfl := Nat.le_antisymm hle hge
      exact hfirst'
    · intro h
      exact (hfirst'.unique Image.key_caseless h).2

/-- An image behind another one that has an alternative text. -/
theorem Linter.imageFix_agrees_second :
    let l : Linter := ⟨Policy.default, Heuristics.default, false⟩
    let text : Text := "<img alt=\"\"><img src=\"b\">"
    let f : Finding := MarkupRules.missingAltText.findingOf 1
      ⟨12, 25, "<img src=\"b\">",
        "Image missing alt attribute. Add alt text for accessibility."⟩
    let fixes := (Fix.ofFindings text (l.check text .blade [])).filter fun fix =>
      fix.key = (f.rule, f.line)
    l.findings text .blade [] = .ok (l.check text .blade []) ∧ f ∈ l.check text .blade [] ∧
      ∃ line start inside, Fix.lineAt? text.lines f.line = some line ∧
        Image.First id line start inside ∧ f.column = some (start + 1 : Nat) ∧
        f.evidence = some (inside ++ ['>']) ∧ fixes.length ≤ 1 ∧
        (fixes.length = 1 ↔ ∃ start inside, Image.First Pattern.caseless line start inside) ∧
        (fixes.map Fix.found? = [f.evidence] ↔ Image.First Pattern.caseless line start inside) := by
  intro l text f fixes
  have hfound : l.findings text .blade [] = .ok (l.check text .blade []) := by
    have hfault : l.fault? text .blade [] = none := by decide +kernel
    rw [findings, hfault]
  have hf : f ∈ l.check text .blade [] := by decide +kernel
  exact ⟨hfound, hf, imageFix_agrees_iff hfound hf rfl⟩

/-- Behind an image in capitals that has none, the fix is about the other image. -/
theorem Linter.imageFix_of_other :
    let l : Linter := ⟨Policy.default, Heuristics.default, false⟩
    let text : Text := "<IMG src=\"a\"><img src=\"b\">"
    ∃ f ∈ l.check text .blade [], f.rule = String.toList "missing_alt_text" ∧
      f.evidence = some (String.toList "<img src=\"b\">") ∧
      ((Fix.ofFindings text (l.check text .blade [])).filter fun fix =>
        fix.key = (f.rule, f.line)).map Fix.found? = [some (String.toList "<IMG src=\"a\">")] := by
  intro l text
  have hcheck : l.check text .blade [] = [MarkupRules.missingAltText.findingOf 1
      ⟨13, 26, "<img src=\"b\">",
        "Image missing alt attribute. Add alt text for accessibility."⟩] := by
    decide +kernel
  rw [hcheck]
  exact ⟨_, List.mem_singleton_self _, rfl, rfl, by decide +kernel⟩

end TemplateLint
