import TemplateLint.Proofs.Analysis.Told
import TemplateLint.Proofs.Rule.Reported
import TemplateLint.Proofs.Text.Extended
import TemplateLint.Proofs.Text.LineIndex

/-!
# Output that is not escaped

Output that is not escaped is looked for twice: line by line by rules, and in the whole document by an
edge case with broader patterns.  What can be read in a line can be read in the document as well, since
no word goes on behind the end of a line (`Pattern.exists_find?_of_line`).  So the edge case is told
wherever the rules report something, and in no later line (`Linter.unescaped_told`).
-/
namespace TemplateLint
namespace Pattern

/-- The pattern can be read at a place where a text follows. -/
def Opens (pattern : Pattern) (rest : Text) : Prop :=
  ∃ passed last, (pattern.matchAt? ⟨passed, last, rest⟩).isSome = true

/-- It does not matter for a match which character stands in front. -/
def Unaware (pattern : Pattern) : Prop :=
  ∀ passed last last' rest,
    pattern.matchAt? ⟨passed, last, rest⟩ = pattern.matchAt? ⟨passed, last', rest⟩

/-- The groups keep what they have read before. -/
def KeepsGroups (pattern : Pattern) : Prop :=
  ∀ {p q : Progress}, q ∈ ways pattern p → q.groups = p.groups

theorem keepsGroups_of_indices {pattern : Pattern} (h : pattern.indices = []) :
    pattern.KeepsGroups := by
  intro p q hq
  obtain ⟨added, hadded, hindices⟩ := ways_groups hq
  rw [h] at hindices
  rw [hadded, List.eq_nil_iff_forall_not_mem.mpr fun c hc => List.not_mem_nil (hindices c hc),
    List.nil_append]

/-! ## Parts of a pattern -/

section
variable {first second : Pattern} {rest : Text}

theorem opens_iff {pattern : Pattern} :
    pattern.Opens rest ↔ ∃ passed last q, q ∈ ways pattern ⟨⟨passed, last, rest⟩, []⟩ := by
  simp only [Opens, matchAt?_isSome_iff]

theorem Opens.alt_left (h : first.Opens rest) : (alt first second).Opens rest := by
  obtain ⟨passed, last, q, hq⟩ := opens_iff.mp h
  exact opens_iff.mpr ⟨passed, last, q, List.mem_append_left _ hq⟩

theorem Opens.alt_right (h : second.Opens rest) : (alt first second).Opens rest := by
  obtain ⟨passed, last, q, hq⟩ := opens_iff.mp h
  exact opens_iff.mpr ⟨passed, last, q, List.mem_append_right _ hq⟩

/-- What comes first in a pattern can be read where the pattern can. -/
theorem Opens.seq_left (h : (seq first second).Opens rest) : first.Opens rest := by
  obtain ⟨passed, last, q, hq⟩ := opens_iff.mp h
  obtain ⟨r, hr, -⟩ := List.mem_flatMap.mp hq
  exact opens_iff.mpr ⟨passed, last, r, hr⟩

/-- What comes second in a pattern can be read behind the first. -/
theorem Opens.seq_right (hgroups : first.KeepsGroups) (h : (seq first second).Opens rest) :
    ∃ k ≤ rest.length, second.Opens (rest.drop k) := by
  obtain ⟨passed, last, q, hq⟩ := opens_iff.mp h
  obtain ⟨⟨⟨passed', last', rest'⟩, groups⟩, hr, hlater⟩ := List.mem_flatMap.mp hq
  obtain rfl : groups = [] := hgroups hr
  obtain ⟨read, hreads, -⟩ := ways_reads (fun _ => true) hr
  obtain rfl : rest = read ++ rest' := hreads.rest
  refine ⟨read.length, ?_, ?_⟩
  · rw [List.length_append]
    exact Nat.le_add_right _ _
  · rw [List.drop_left]
    exact opens_iff.mpr ⟨passed', last', q, hlater⟩

end

/-! ## From lines to documents -/

/-- Where a search finds something, the pattern can be read. -/
theorem exists_opens_of_find? {pattern : Pattern} {text : Text} {m : Match}
    (h : pattern.find? text = some m) : ∃ k ≤ text.length, pattern.Opens (text.drop k) := by
  obtain ⟨k, last, hk, hmatch⟩ := firstFrom?_eq_some h
  exact ⟨k, hk, 0 + k, last, Option.isSome_iff_exists.mpr ⟨m, hmatch⟩⟩

/-- A pattern that does not look back can be read at every place where the same text follows. -/
theorem Unaware.isSome_of_opens {pattern : Pattern} (h : pattern.Unaware) {rest : Text}
    (hopens : pattern.Opens rest) (passed : Nat) (last : Option Char) :
    (pattern.matchAt? ⟨passed, last, rest⟩).isSome = true := by
  -- places differ in what was passed, and how much was passed does not matter
  have hmoved : ∀ n, (pattern.matchAt? ⟨n, last, rest⟩).isSome =
      (pattern.matchAt? ⟨0, last, rest⟩).isSome := by
    intro n
    have hm := matchAt?_moved n pattern ⟨0, last, rest⟩
    unfold Spot.moved at hm
    rw [Nat.add_zero] at hm
    rw [hm, Option.isSome_map]
  obtain ⟨passed', last', hsome⟩ := hopens
  rw [h passed' last' last, hmoved] at hsome
  rw [hmoved, hsome]

/-- What can be read somewhere in a line, a search through the document finds, and in no later
line. -/
theorem exists_find?_of_line {pattern : Pattern} (hunaware : pattern.Unaware)
    (hreads : ∀ after : Text, after.head?.any isWord = false → pattern.ReadsOn after)
    {text line : Text} {index k : Nat} (hline : text.lines[index]? = some line) (hk : k ≤ line.length)
    (hopens : pattern.Opens (line.drop k)) :
    ∃ m, pattern.find? text = some m ∧ (Position.ofOffset text m.start).line ≤ index + 1 := by
  obtain ⟨after, hafter, hhead⟩ := Text.drop_lineStart hline
  -- behind the line the text ends or has a line end, so no word goes on there
  have hword : after.head?.any isWord = false := by
    cases after with
    | nil => rfl
    | cons c after =>
      obtain rfl := hhead c rfl
      rfl
  have hrest : text.drop (Text.lineStart text index + k) = line.drop k ++ after := by
    rw [← List.drop_drop, hafter, List.drop_append_of_le_length hk]
  obtain ⟨passed, last, hsome⟩ := hopens
  have hthere : pattern.Opens (text.drop (Text.lineStart text index + k)) := by
    rw [hrest]
    exact ⟨passed, last, matchAt?_extend (hreads after hword) hsome⟩
  have hinside := Text.lineStart_add_length_le hline
  have hle : Text.lineStart text index + k ≤ text.length := by omega
  obtain ⟨m, hm, hstart⟩ := exists_find? hle (hunaware.isSome_of_opens hthere _ _)
  refine ⟨m, hm, ?_⟩
  have hmono := Position.line_mono text hstart
  rw [Position.ofOffset_lineStart hline hk] at hmono
  exact hmono

end Pattern

/-! ## The patterns of the rules and of the edge case -/

namespace EdgeCases

open Pattern

/-- The pattern of the edge case does not look back, and reads on in a document as in a line. -/
theorem rawOutput?_eq_some {dialect : Dialect} {pattern : Pattern} {message : Text}
    (h : rawOutput? dialect = some (pattern, message)) :
    pattern.Unaware ∧ ∀ after : Text, after.head?.any isWord = false → pattern.ReadsOn after := by
  cases dialect with
  | blade =>
    obtain ⟨rfl, -⟩ := Prod.mk.inj (Option.some.inj h)
    refine ⟨?_, fun after _ => ⟨trivial, trivial, trivial, trivial⟩⟩
    intro passed last last' rest
    cases rest <;> rfl
  | antlers =>
    obtain ⟨rfl, -⟩ := Prod.mk.inj (Option.some.inj h)
    refine ⟨?_, fun after hword => ?_⟩
    · intro passed last last' rest
      cases rest <;> rfl
    · refine ⟨⟨trivial, trivial, trivial, trivial⟩, ⟨trivial, trivial⟩, trivial, ?_⟩
      exact ⟨⟨trivial, trivial, trivial, trivial⟩, hword⟩
  | unknown => cases h

/-- Where a rule reports output that is not escaped in a line, the edge case reads its own pattern in
that line. -/
theorem exists_opens_of_findingsIn {dialect : Dialect} {rule : LineRule}
    (hrule : rule ∈ [MarkupRules.unescapedBlade, MarkupRules.unescapedAntlers])
    (hdialect : dialect ∈ rule.dialects) {number : Nat} {line : Text} {f : Finding}
    (hf : f ∈ rule.findingsIn number line) :
    ∃ pattern message, rawOutput? dialect = some (pattern, message) ∧
      ∃ k ≤ line.length, pattern.Opens (line.drop k) := by
  obtain ⟨group, hgroup, p, hp, m, hm⟩ := LineRule.exists_pattern_of_findingsIn hf
  obtain ⟨k, hk, hopens⟩ := exists_opens_of_find? hm
  simp only [List.mem_cons, List.not_mem_nil, or_false] at hrule
  rcases hrule with rfl | rfl
  · obtain rfl := List.mem_singleton.mp hdialect
    obtain rfl := List.mem_singleton.mp hgroup
    obtain rfl := List.mem_singleton.mp hp
    exact ⟨_, _, rfl, k, hk, Opens.seq_left hopens⟩
  · obtain rfl := List.mem_singleton.mp hdialect
    refine ⟨_, _, rfl, ?_⟩
    rcases List.mem_cons.mp hgroup with rfl | hgroup
    · obtain rfl := List.mem_singleton.mp hp
      exact ⟨k, hk, Opens.alt_left hopens⟩
    · -- the modifier stands behind the braces and the other characters of the tag
      obtain rfl := List.mem_singleton.mp hgroup
      obtain rfl := List.mem_singleton.mp hp
      obtain ⟨n, hn, hinner⟩ := Opens.seq_right (keepsGroups_of_indices rfl) hopens
      obtain ⟨n', hn', hmodifier⟩ := Opens.seq_right (keepsGroups_of_indices rfl) hinner
      rw [List.drop_drop, List.drop_drop, ← Nat.add_assoc] at hmodifier
      simp only [List.length_drop] at hn hn'
      exact ⟨k + n + n', by omega, Opens.alt_right hmodifier⟩

/-! ## Kinds of risks -/

theorem recursion_kind (dialect : Dialect) (text : Text) (path : Option Text) :
    ∀ e ∈ recursion dialect text path, e.kind = "potential_recursion" := by
  rw [recursion]
  split
  · exact List.forall_mem_nil _
  · dsimp only
    split
    · exact List.forall_mem_nil _
    · exact List.forall_mem_singleton.mpr rfl

theorem memory_kind (text : Text) (threshold : Value) :
    Finds (fun e => e.kind = String.toList "memory_intensive") (memory text threshold) := by
  refine Finds.bind fun found _ => ?_
  cases found with
  | none => exact Finds.nothing
  | some found => exact Finds.one rfl

theorem endless_kind (dialect : Dialect) (text : Text) :
    ∀ e ∈ endless dialect text, e.kind = "infinite_loop_risk" := by
  rw [endless]
  split
  · exact List.forall_mem_nil _
  · exact List.forall_mem_singleton.mpr rfl

theorem unescaped_kind (dialect : Dialect) (text : Text) :
    ∀ e ∈ unescaped dialect text, e.kind = "xss_risk" := by
  rw [unescaped]
  split
  · exact List.forall_mem_nil _
  · split
    · exact List.forall_mem_nil _
    · exact List.forall_mem_singleton.mpr rfl

/-- The risks of a template that are of this kind are output that is not escaped, and only that is. -/
theorem filter_detect {dialect : Dialect} {text : Text} {path : Option Text} {h : Heuristics}
    {risks : List EdgeCase} (hrisks : detect dialect text path h = .ok risks) :
    risks.filter (fun e => e.kind = String.toList "xss_risk") = unescaped dialect text := by
  have hother : ∀ {kind : Text} {some : List EdgeCase}, (∀ e ∈ some, e.kind = kind) →
      kind ≠ "xss_risk" → some.filter (fun e => e.kind = String.toList "xss_risk") = [] := by
    intro kind some hkind hne
    refine List.filter_eq_nil_iff.mpr fun e he => ?_
    rw [hkind e he, decide_eq_true_eq]
    exact hne
  obtain ⟨caps, hcaps, hrisks⟩ := Answers.bind_eq_ok hrisks
  obtain rfl := Except.ok.inj hrisks
  rw [List.filter_append, List.filter_append, List.filter_append,
    hother (recursion_kind dialect text path) (by decide),
    hother (memory_kind text _ caps hcaps) (by decide),
    hother (endless_kind dialect text) (by decide), List.nil_append, List.nil_append,
    List.nil_append]
  exact List.filter_eq_self.mpr fun e he => decide_eq_true (unescaped_kind dialect text e he)

end EdgeCases

/-! ## What rules report, the edge case tells -/

/-- Only the two rules about output report that it is not escaped. -/
theorem RuleSet.mem_unescaped {policy : Policy} {dialect : Dialect} {strict : Bool} {r : LineRule}
    (hr : r ∈ (select policy dialect strict).lineRules) (hcode : r.code = "unescaped_output") :
    r ∈ [MarkupRules.unescapedBlade, MarkupRules.unescapedAntlers] ∧ dialect ∈ r.dialects := by
  obtain ⟨hpolicy | hmarkup, hdialect⟩ := mem_lineRules hr
  · have hother : String.toList "unescaped_output" ∈ PolicyRules.codes :=
      hcode ▸ PolicyRules.ofPolicy_code hpolicy
    exact absurd hother (by decide)
  · have hothers : ∀ r ∈ MarkupRules.xssRisk :: (MarkupRules.accessibility ++ MarkupRules.strict),
        r.code ≠ "unescaped_output" := by decide
    refine ⟨?_, hdialect⟩
    rw [List.append_assoc] at hmarkup
    rcases List.mem_append.mp hmarkup with hsecure | hmarkup
    · simp only [MarkupRules.security, List.mem_cons, List.not_mem_nil, or_false] at hsecure ⊢
      rcases hsecure with rfl | rfl | rfl
      · exact Or.inl rfl
      · exact Or.inr rfl
      · exact absurd hcode (hothers _ List.mem_cons_self)
    · exact absurd hcode (hothers r (List.mem_cons_of_mem _ hmarkup))

/-- No document rule reports output that is not escaped. -/
theorem DocumentRule.unescaped_not_mem (rule : DocumentRule) :
    String.toList "unescaped_output" ∉ rule.reported := by
  cases rule <;> decide

/-- **What a rule reports as not escaped, the edge case tells.**  If a linter reports output that is
not escaped in a line, the risks of the document hold exactly one of that kind, and its line is no
later one. -/
theorem Linter.unescaped_told {l : Linter} {text : Text} {dialect : Dialect} {fields : Entries Value}
    {found : List Finding} (hfound : l.findings text dialect fields = .ok found) {f : Finding}
    (hf : f ∈ found) (hrule : f.rule = "unescaped_output") {path : Option Text} {h : Heuristics}
    {risks : List EdgeCase} (hrisks : EdgeCases.detect dialect text path h = .ok risks) :
    ∃ risk line, risks.filter (fun e => e.kind = String.toList "xss_risk") = [risk] ∧
      risk.line = some line ∧ line ≤ f.line := by
  obtain rfl : l.check text dialect fields = found := by
    rw [findings] at hfound
    split at hfound
    · cases hfound
    · exact Except.ok.inj hfound
  rw [EdgeCases.filter_detect hrisks, EdgeCases.unescaped]
  rcases List.mem_append.mp hf with hf | hf
  · obtain ⟨index, line, rule, hline, hselected, hf⟩ := mem_lineFindings hf
    obtain ⟨hcode, hnumber⟩ := LineRule.findingsIn_rule hf
    obtain ⟨hwhich, hdialect⟩ := RuleSet.mem_unescaped hselected (hcode ▸ hrule)
    obtain ⟨pattern, message, hraw, k, hk, hopens⟩ :=
      EdgeCases.exists_opens_of_findingsIn hwhich hdialect hf
    obtain ⟨hunaware, hreads⟩ := EdgeCases.rawOutput?_eq_some hraw
    obtain ⟨m, hm, hle⟩ := Pattern.exists_find?_of_line hunaware hreads hline hk hopens
    rw [hraw]
    dsimp only
    rw [hm]
    refine ⟨_, _, rfl, rfl, ?_⟩
    rw [hnumber]
    omega
  · obtain ⟨rule, -, hf⟩ := List.mem_flatMap.mp hf
    exact absurd (hrule ▸ DocumentRule.check_reported hf) rule.unescaped_not_mem

/-- A tag that writes its content as it is, in the second line. -/
theorem Linter.unescaped_told_raw :
    let l : Linter := ⟨Policy.default, Heuristics.default, false⟩
    let text : Text := "title\n\x7b\x7b body | raw \x7d\x7d"
    let f : Finding := MarkupRules.unescapedAntlers.findingOf 2
      ⟨0, 13, "\x7b\x7b body | raw",
        "The raw modifier disables escaping. Ensure content is safe or sanitize it first."⟩
    let risk := EdgeCases.riskAt text "xss_risk" "high" 14
      "Triple braces or the raw modifier output unescaped HTML - ensure data is sanitized"
    f ∈ l.check text .antlers [] ∧
      ∃ risk' line, [risk].filter (fun e => e.kind = String.toList "xss_risk") = [risk'] ∧
        risk'.line = some line ∧ line ≤ f.line := by
  intro l text f risk
  have hfound : l.findings text .antlers [] = .ok (l.check text .antlers []) := by
    have hfault : l.fault? text .antlers [] = none := by decide +kernel
    rw [findings, hfault]
  have hf : f ∈ l.check text .antlers [] := by decide +kernel
  have hrisks : EdgeCases.detect .antlers text none Heuristics.default = .ok [risk] := by
    decide +kernel
  exact ⟨hf, unescaped_told hfound hf rfl hrisks⟩

end TemplateLint
