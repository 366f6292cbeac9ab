import TemplateLint.Proofs.Antlers.Scanned
import TemplateLint.Proofs.Block.Surplus
import TemplateLint.Proofs.Rule.Located
import TemplateLint.Proofs.Rule.Reported
import TemplateLint.Proofs.Text.Forward

/-!
# The tokens of tags

Every tag gives one token or none, and the tokens that start where a tag starts are just the one of that
tag (`BlockToken.filter_start_ofAntlers`).  A closing tag gives a closer.  A tag that opens is named for
one of the block tags, or else some tag of the document closes its name (`BlockToken.role?_opens`).  So a
document closes every name that opens a construct and is no block tag, and a tag that nothing closes is
not told to be open, unless it is a block tag (`BlockToken.ofAntlers_tokens`).
-/
namespace TemplateLint

/-! ## Closing tags -/

namespace Tag

/-- The slash of a closing tag stands first, so the tag does not close itself. -/
theorem selfClosing_of_isClosing {inner raw : Text} {start : Nat}
    (h : (parse inner start raw).isClosing = true) : (parse inner start raw).selfClosing = false := by
  unfold parse at h ⊢
  dsimp only at h ⊢
  generalize inner.strip = content at h ⊢
  rw [Bool.eq_false_iff]
  intro hself
  rw [hself, if_pos rfl, beq_iff_eq] at h
  -- without the slash at its end the content starts as before
  have hfront : Text.stripRight content.dropLast <+: content :=
    (Text.stripRight_prefix_self _).trans (List.dropLast_prefix content)
  obtain ⟨after, hafter⟩ := hfront
  have hfirst : content.head? = some '/' := by
    rw [← hafter, List.head?_append, h]
    rfl
  rw [hfirst] at hself
  simp at hself

theorem selfClosing_of_mem_scan {text : Text} {t : Tag} (ht : t ∈ scan text)
    (h : t.isClosing = true) : t.selfClosing = false := by
  obtain ⟨m, -, rfl⟩ := List.mem_map.mp ht
  exact selfClosing_of_isClosing h

end Tag

namespace BlockToken

variable {text name : Text} {closed : List Text} {t : Tag} {token : BlockToken}

/-- The closer that a closing tag stands for. -/
def closerOf (text : Text) (t : Tag) : BlockToken where
  name := pairName t
  isCloser := true
  start := t.start
  stop := t.stop
  position := Position.ofOffset text t.start
  text := t.raw

theorem ofTag?_closing (hself : t.selfClosing = false) (h : t.isClosing = true) :
    ofTag? text closed t = some (closerOf text t) := by
  rw [ofTag?, role?, hself, h]
  rfl

/-! ## Opening tags -/

/-- The names under which a tag may open a construct: the name it pairs under, if that is a block tag or
is closed, and its namespace, if that is closed. -/
inductive Opens (closed : List Text) (t : Tag) : Text → Prop where
  | block (h : pairName t ∈ blockTags) : Opens closed t (pairName t)
  | named (h : pairName t ∈ closed) : Opens closed t (pairName t)
  | spaced {space : Text} (hspace : t.space = some space) (h : space ∈ closed) : Opens closed t space

/-- A tag pairs under its namespace if that is a block tag. -/
theorem pairName_of_space (h : t.space.any (· ∈ blockTags) = true) : pairName t ∈ blockTags := by
  unfold pairName
  cases hspace : t.space with
  | none =>
    rw [hspace] at h
    cases h
  | some space =>
    rw [hspace, Option.any_some, decide_eq_true_eq] at h
    show (if space ∈ blockTags then space else t.head) ∈ blockTags
    rw [if_pos h]
    exact h

/-- A tag without a namespace pairs under its head. -/
theorem pairName_of_head (hspace : t.space = none) : pairName t = t.head := by
  rw [pairName, hspace]

/-- **A tag opens a construct under one of these names only.** -/
theorem role?_opens (h : role? closed t = some (name, false)) : Opens closed t name := by
  unfold role? at h
  split at h
  · cases h
  split at h
  · cases h
  split at h
  · cases h
  split at h
  · next hblock =>
    split at h
    · cases h
    · cases h
      exact .block (pairName_of_space hblock)
  split at h
  · next hblock =>
    cases h
    refine .block ?_
    rw [pairName_of_head hblock.1]
    exact hblock.2
  split at h
  · cases h
  split at h
  · next hnamed =>
    cases h
    exact .named hnamed
  split at h
  · next space hspace =>
    split at h
    · next hclosed =>
      cases h
      exact .spaced hspace hclosed
    · cases h
  · cases h

/-! ## Tokens and tags -/

/-- The tokens of tags that stand one behind the other: those that start where one of the tags starts
are the token of that tag. -/
theorem filter_start_filterMap {tags : List Tag}
    (hincreasing : tags.Pairwise fun t later => t.start < later.start) (ht : t ∈ tags) :
    (tags.filterMap (ofTag? text closed)).filter (fun token => token.start = t.start) =
      (ofTag? text closed t).toList := by
  have hkeeps : ∀ u, (ofTag? text closed u).filter (fun token => token.start = t.start) =
      if decide (u.start = t.start) = true then ofTag? text closed u else none := by
    intro u
    rw [ofTag?]
    cases role? closed u with
    | none => simp
    | some role => simp [Option.filter]
  have hone : tags.filter (fun u => u.start = t.start) = [t] := by
    induction tags with
    | nil => cases ht
    | cons first tags ih =>
      obtain ⟨hfirst, htail⟩ := List.pairwise_cons.mp hincreasing
      rcases List.mem_cons.mp ht with rfl | ht
      · rw [List.filter_cons_of_pos (by simp), List.filter_eq_nil_iff.mpr]
        intro later hlater
        have hlt := hfirst later hlater
        simp only [decide_eq_true_eq]
        omega
      · have hlt := hfirst t ht
        rw [List.filter_cons_of_neg (by simpa using Nat.ne_of_lt hlt)]
        exact ih htail ht
  simp only [List.filter_filterMap, hkeeps]
  rw [← List.filterMap_filter, hone]
  cases h : ofTag? text closed t <;> simp [h]

/-- The tokens that start where a tag starts. -/
theorem filter_start_ofAntlers (ht : t ∈ Tag.scan text) :
    (ofAntlers text).filter (fun token => token.start = t.start) =
      (ofTag? text (closedNames (Tag.scan text)) t).toList :=
  filter_start_filterMap (Tag.scanned_scan text).increasing ht

/-- A tag is closed in a document: a closing tag of it pairs under the same name, or under the namespace
of the tag. -/
def ClosedIn (text : Text) (t : Tag) : Prop :=
  ∃ c ∈ Tag.scan text, c.isClosing = true ∧ (pairName c = pairName t ∨ t.space = some (pairName c))

theorem mem_closedNames_iff {tags : List Tag} :
    name ∈ closedNames tags ↔ ∃ c ∈ tags, c.isClosing = true ∧ pairName c = name := by
  simp [closedNames, and_assoc]

/-- A name that opens a construct and is no block tag is closed. -/
theorem Opens.mem_closed (h : Opens closed t name) (hname : name ∉ blockTags) : name ∈ closed := by
  cases h with
  | block h => exact absurd h hname
  | named h => exact h
  | spaced _ h => exact h

/-- A tag that opens a construct is a block tag or is closed. -/
theorem Opens.closedIn (h : Opens (closedNames (Tag.scan text)) t name)
    (hblock : pairName t ∉ blockTags) : ClosedIn text t := by
  cases h with
  | block h => exact absurd h hblock
  | named h =>
    obtain ⟨c, hc, hcloses, hname⟩ := mem_closedNames_iff.mp h
    exact ⟨c, hc, hcloses, Or.inl hname⟩
  | spaced hspace h =>
    obtain ⟨c, hc, hcloses, rfl⟩ := mem_closedNames_iff.mp h
    exact ⟨c, hc, hcloses, Or.inr hspace⟩

end BlockToken

/-! ## What is told to be open -/

namespace Pairing

/-- An end that is told to be open opens. -/
theorem isCloser_of_mem_unclosed {tokens : List BlockToken} {t : BlockToken}
    (ht : t ∈ (ofTokens tokens).unclosed) : t.isCloser = false := by
  obtain ⟨pairs, closers, openers, r⟩ := walk_tokens_roles tokens
  have hsome : some t ∈ openers.map (tokens[·]?) := r.unclosed ▸ List.mem_map_of_mem ht
  obtain ⟨i, hi, hat⟩ := List.mem_map.mp hsome
  obtain ⟨o, ho, hopens⟩ := ((r.openers_iff i).mp hi).opens
  obtain rfl : o = t := Option.some.inj (ho.symm.trans hat)
  exact hopens

end Pairing

/-- No line rule reports an end of a construct. -/
theorem RuleSet.unclosed_ne_code {policy : Policy} {dialect : Dialect} {strict : Bool} {r : LineRule}
    (hr : r ∈ (select policy dialect strict).lineRules) : r.code ≠ "unclosed_directive" := by
  obtain ⟨hpolicy | hmarkup, -⟩ := mem_lineRules hr
  · intro hcode
    have hmem : String.toList "unclosed_directive" ∈ PolicyRules.codes :=
      hcode ▸ PolicyRules.ofPolicy_code hpolicy
    exact absurd hmem (by decide)
  · have hothers : ∀ r ∈ MarkupRules.security ++ MarkupRules.accessibility ++ MarkupRules.strict,
        r.code ≠ "unclosed_directive" := by decide
    exact hothers r hmarkup

/-- Only the rule about the balance of blocks reports that a construct is not closed. -/
theorem DocumentRule.eq_blockBalance {rule : DocumentRule}
    (h : String.toList "unclosed_directive" ∈ rule.reported) : rule = blockBalance := by
  revert h
  cases rule <;> decide

/-- A construct that a linter tells to be open is an opener among the tokens of the document. -/
theorem Linter.exists_unclosed {l : Linter} {text : Text} {dialect : Dialect} {fields : Entries Value}
    {f : Finding} (hf : f ∈ l.check text dialect fields) (hrule : f.rule = "unclosed_directive") :
    ∃ token ∈ BlockToken.scan dialect text, token.isCloser = false ∧ f.ToldAt text token.start := by
  rcases List.mem_append.mp hf with hf | hf
  · obtain ⟨index, line, rule, -, hselected, hf⟩ := mem_lineFindings hf
    obtain ⟨hcode, -⟩ := LineRule.findingsIn_rule hf
    exact absurd (hcode ▸ hrule) (RuleSet.unclosed_ne_code hselected)
  · obtain ⟨rule, -, hf⟩ := List.mem_flatMap.mp hf
    obtain rfl := DocumentRule.eq_blockBalance (hrule ▸ DocumentRule.check_reported hf)
    rcases List.mem_append.mp hf with hf | hf
    · obtain ⟨token, -, rfl⟩ := List.mem_map.mp hf
      exact absurd hrule.symm StructureRules.rules_ne
    · obtain ⟨token, htoken, rfl⟩ := List.mem_map.mp hf
      have hmem := Pairing.mem_of_mem_unclosed htoken
      have hposition : token.position = Position.ofOffset text token.start :=
        (BlockToken.scan_placedIn hmem).position_eq
      refine ⟨token, hmem, Pairing.isCloser_of_mem_unclosed htoken, ?_, ?_⟩
      · exact congrArg (fun p : Position => (p.line : Int)) hposition
      · exact congrArg (fun p : Position => some (p.column : Int)) hposition

namespace BlockToken

/-- The opener that starts where a tag starts opens under one of the names of the tag. -/
theorem opens_of_start_eq {text : Text} {t : Tag} (ht : t ∈ Tag.scan text) {token : BlockToken}
    (htoken : token ∈ ofAntlers text) (hopens : token.isCloser = false)
    (hstart : token.start = t.start) : Opens (closedNames (Tag.scan text)) t token.name := by
  have hmem : token ∈ (ofAntlers text).filter (fun token => token.start = t.start) :=
    List.mem_filter.mpr ⟨htoken, decide_eq_true hstart⟩
  rw [filter_start_ofAntlers ht, Option.mem_toList] at hmem
  obtain ⟨⟨name, closes⟩, hrole, rfl⟩ := Option.map_eq_some_iff.mp hmem
  obtain rfl : closes = false := hopens
  exact role?_opens hrole

/-- **The tokens of the tags of a document.**  A closing tag gives one token, its closer.  An opener whose
name is no block tag has a closing tag of that name.  So a tag that is closed nowhere is not told to be
open by any linter, unless it is one of the block tags. -/
theorem ofAntlers_tokens (text : Text) :
    (∀ t ∈ Tag.scan text, t.isClosing = true →
      (ofAntlers text).filter (fun token => token.start = t.start) = [closerOf text t]) ∧
    (∀ token ∈ ofAntlers text, token.isCloser = false → token.name ∉ blockTags →
      ∃ c ∈ Tag.scan text, c.isClosing = true ∧ pairName c = token.name) ∧
    ∀ t ∈ Tag.scan text, ¬ ClosedIn text t → pairName t ∉ blockTags →
      ∀ (l : Linter) (fields : Entries Value), ∀ f ∈ l.check text .antlers fields,
        f.rule = "unclosed_directive" → ¬ f.ToldAt text t.start := by
  refine ⟨fun t ht hcloses => ?_, fun token htoken hopens hname => ?_, ?_⟩
  · rw [filter_start_ofAntlers ht, ofTag?_closing (Tag.selfClosing_of_mem_scan ht hcloses) hcloses]
    rfl
  · obtain ⟨t, ht, hof⟩ := List.mem_filterMap.mp htoken
    have hstart : token.start = t.start := by
      obtain ⟨role, -, rfl⟩ := Option.map_eq_some_iff.mp hof
      rfl
    exact mem_closedNames_iff.mp ((opens_of_start_eq ht htoken hopens hstart).mem_closed hname)
  · intro t ht hnever hblock l fields f hf hrule htold
    obtain ⟨token, htoken, hopens, htold'⟩ := Linter.exists_unclosed hf hrule
    have hstart := htold'.offset_eq htold
    exact hnever ((opens_of_start_eq ht htoken hopens hstart).closedIn hblock)

/-- A variable takes no part, a pair is named for its namespace, and a block tag opens without a
closer. -/
example :
    let text : Text :=
      "\x7b\x7b title \x7d\x7d\x7b\x7b form:contact \x7d\x7d\x7b\x7b /form \x7d\x7d\x7b\x7b nav:main \x7d\x7d"
    let named : List (Text × Bool) := [("form", false), ("form", true), ("nav", false)]
    (ofAntlers text).map (fun token => (token.name, token.isCloser)) = named := by
  decide +kernel

end BlockToken
end TemplateLint
