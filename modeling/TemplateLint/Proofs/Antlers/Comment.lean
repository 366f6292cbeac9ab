import TemplateLint.Proofs.Antlers.Settled
import TemplateLint.Proofs.Rule.Located

/-!
# Comments

A comment is not read as one stretch: only its own opening is passed over, and the search for tags
goes on inside it.  So a comment is inert, that is, the text around it is read as around an empty
comment, if the comment alone gives no tag and no opening without an end (`Comment.Quiet`).  This is the
only condition on what the comment says (`Comment.inert_iff`), except that an opening without an end
that stands in front of the comment shows the text behind it as its evidence.
-/
namespace TemplateLint

open Pattern StructureRules

/-- A finding about one text as a finding about another one, in which the offsets are moved. -/
def Finding.movedTo (source target : Text) (move : Nat → Nat) (f : Finding) : Finding :=
  match f.column with
  | none => f
  | some column =>
    let position := Position.ofOffset target (move (Text.offsetOf source f.line column))
    { f with line := position.line, column := some position.column }

/-! ## Openings without an end as they are told -/

namespace StructureRules

/-- What a finding shows of the text at an offset: the rest of the line, cut short. -/
def excerpt (text : Text) (start : Nat) : Text :=
  (Text.slice text start (start + 40)).takeWhile (· != '\n')

/-- The finding about an opening that lacks its closing braces. -/
def unterminatedAt (ctx : RuleContext) (start : Nat) : Finding :=
  ctx.findingAt "unterminated_tag" .maintainability .error start
    "Unclosed Antlers tag: '\x7b\x7b' without a matching '\x7d\x7d'" (excerpt ctx.text start) none

theorem unterminatedTag_eq (ctx : RuleContext) :
    unterminatedTag ctx = (unterminatedIn ctx.text).map (unterminatedAt ctx) := rfl

theorem excerpt_append_right (first second : Text) (start : Nat) :
    excerpt (first ++ second) (first.length + start) = excerpt second start := by
  unfold excerpt
  rw [Nat.add_assoc, slice_append_right]

theorem lt_length_of_mem_unterminatedIn {text : Text} {start : Nat}
    (h : start ∈ unterminatedIn text) : start < text.length := by
  have hlength := (prefix_of_mem_openings (mem_of_mem_unterminated h)).length_le
  rw [List.length_drop] at hlength
  have htwo : openBraces.length = 2 := rfl
  omega

/-- The finding about an opening that is moved to another text differs in its evidence only. -/
theorem movedTo_unterminatedAt (ctx : RuleContext) (source target : Text)
    (move : Nat → Nat) (start : Nat) :
    (unterminatedAt { ctx with text := source } start).movedTo source target move =
      { unterminatedAt { ctx with text := target } (move start) with
        evidence := some (excerpt source start) } := by
  have hback := Position.offsetOf_ofOffset source start
  unfold Finding.movedTo unterminatedAt RuleContext.findingAt
  dsimp only
  rw [hback]

theorem unterminatedAt_eq_movedTo_iff (ctx : RuleContext) (source target : Text)
    (move : Nat → Nat) (start : Nat) :
    unterminatedAt { ctx with text := target } (move start) =
        (unterminatedAt { ctx with text := source } start).movedTo source target move ↔
      excerpt target (move start) = excerpt source start := by
  rw [movedTo_unterminatedAt ctx source target move start]
  constructor
  · intro heq
    exact Option.some.inj (congrArg Finding.evidence heq)
  · intro heq
    rw [← heq]
    rfl

end StructureRules

/-! ## A comment alone -/

/-- A comment with the given text between its marks. -/
def comment (inside : Text) : Text := openBraces ++ '#' :: inside ++ '#' :: closeBraces

namespace Comment

variable {before inside after : Text}

@[simp] theorem length_comment (inside : Text) : (comment inside).length = inside.length + 6 := by
  simp [comment, openBraces, closeBraces]

/-- The mark at the end of a comment closes every opening in it. -/
theorem comment_settled (inside : Text) : Settled (comment inside) := by
  have hmark : '#' :: closeBraces <:+ comment inside := List.suffix_append _ _
  exact Settled.of_closed ((List.suffix_cons _ _).trans hmark)

/-- A comment that gives nothing when it stands alone. -/
structure Quiet (inside : Text) : Prop where
  tags : Tag.scan (comment inside) = []
  openings : unterminatedIn (comment inside) = []

/-- What ends in a comment's mark has an opening only if the part before the mark has one. -/
theorem opening_before_mark {text : Text} (h : openBraces <:+: text ++ '#' :: closeBraces) :
    openBraces <:+: text := by
  obtain ⟨front, behind, heq⟩ := h
  rcases List.append_eq_append_iff.mp heq with ⟨more, htext, -⟩ | ⟨more, hfront, hmark⟩
  · exact ⟨front, more, htext.symm⟩
  · -- the opening would reach into the mark, where there is no opening brace
    cases more using List.reverseRecOn with
    | nil => exact ⟨front, [], by rw [hfront, List.append_nil, List.append_nil]⟩
    | append_singleton more c =>
      have hlast := congrArg List.getLast? hfront
      rw [← List.append_assoc, List.getLast?_append, List.getLast?_concat] at hlast
      obtain rfl : '\x7b' = c := Option.some.inj hlast
      have hmem : '\x7b' ∈ '#' :: closeBraces := by simp [hmark]
      exact absurd hmem (by decide)

/-- What follows the first brace of a comment. -/
def afterBrace (inside : Text) : Text := '\x7b' :: '#' :: inside ++ '#' :: closeBraces

theorem comment_eq_cons (inside : Text) : comment inside = '\x7b' :: afterBrace inside := rfl

/-- Behind its first brace a comment has an opening only if it says one. -/
theorem opening_inside (h : openBraces <:+: afterBrace inside) : openBraces <:+: inside := by
  rcases List.infix_cons_iff.mp h with hstart | h
  · exact absurd hstart (by simp [openBraces])
  · rcases List.infix_cons_iff.mp h with hstart | h
    · exact absurd hstart (by simp [openBraces])
    · exact opening_before_mark h

/-- No tag starts where a comment starts. -/
theorem innerAt?_comment (last : Option Char) (inside : Text) :
    Tag.innerAt? last (comment inside) = none := by
  have hhead : ((comment inside).drop 2).head?.any (among "\x7b#") = true := rfl
  unfold Tag.innerAt?
  rw [hhead, Bool.not_true, Bool.and_false]
  rfl

section NoOpening

variable (h : ¬ openBraces <:+: inside)
include h

theorem isPrefixOf_afterBrace (k : Nat) :
    openBraces.isPrefixOf ((afterBrace inside).drop k) = false := by
  rw [Bool.eq_false_iff]
  intro hk
  have hstart := List.isPrefixOf_iff_prefix.mp hk
  exact h (opening_inside (hstart.isInfix.trans (List.drop_suffix k _).isInfix))

/-- A comment without an opening in it has no tag. -/
theorem scan_comment : Tag.scan (comment inside) = [] := by
  apply List.eq_nil_iff_forall_not_mem.mpr
  intro t ht
  obtain ⟨m, hm, -⟩ := List.mem_map.mp ht
  obtain ⟨k, last, -, hmatch⟩ := mem_allFrom hm
  rw [Tag.matchAt?_pattern] at hmatch
  cases k with
  | zero =>
    rw [List.drop_zero, innerAt?_comment] at hmatch
    cases hmatch
  | succ k =>
    rw [comment_eq_cons, List.drop_succ_cons, Tag.innerAt?, isPrefixOf_afterBrace h] at hmatch
    cases hmatch

/-- The only opening of a comment without an opening in it is its own. -/
theorem openings_comment : openings (comment inside) = [0] := by
  have hfirst : tagOpenPattern.matchAt? ⟨0, none, comment inside⟩ =
      some ⟨0, 2, openBraces, []⟩ := by
    rw [matchAt?_tagOpenPattern]
    rfl
  have hrest : ∀ resume, tagOpenPattern.allFrom resume 1 (some '\x7b') (afterBrace inside) = [] := by
    intro resume
    apply List.eq_nil_iff_forall_not_mem.mpr
    intro m hm
    obtain ⟨k, last, -, hmatch⟩ := mem_allFrom hm
    rw [matchAt?_tagOpenPattern, opensAt, isPrefixOf_afterBrace h] at hmatch
    cases hmatch
  rw [comment_eq_cons] at hfirst
  rw [openings, findAll, comment_eq_cons, allFrom, if_pos (Nat.le_refl 0), hfirst]
  show _ :: List.map _ (tagOpenPattern.allFrom _ 1 _ _) = _
  rw [hrest]
  rfl

theorem quiet_of_no_opening : Quiet inside := by
  refine ⟨scan_comment h, ?_⟩
  have hcloses : closeBraces <:+: (comment inside).drop 2 :=
    (comment_settled inside).closed _ (List.suffix_refl _)
  rw [← slice_length, ← Text.contains_iff] at hcloses
  rw [unterminatedIn, openings_comment h, unterminated, Nat.zero_add, List.headD_nil]
  simp only [hcloses, if_true]
  rfl

end NoOpening

/-! ## A comment behind a settled text -/

/-- A text with a comment in it. -/
def commented (before inside after : Text) : Text := before ++ (comment inside ++ after)

/-- Where an offset of a text with an empty comment lies when the comment says something. -/
def widened (before inside : Text) (offset : Nat) : Nat :=
  if before.length + 6 ≤ offset then offset + inside.length else offset

/-- Where an offset of a text lies when the text stands behind a comment. -/
def behind (before inside : Text) (offset : Nat) : Nat :=
  before.length + (inside.length + 6 + offset)

/-- **A comment is inert** if the text around it is read as around an empty comment: the tags, the
block tokens and the findings about openings without an end are the same, moved as far as the comment is
longer. -/
structure Inert (before inside after : Text) : Prop where
  tags : Tag.scan (commented before inside after) =
    (Tag.scan (commented before [] after)).map (Tag.moved (widened before inside))
  tokens : BlockToken.ofAntlers (commented before inside after) =
    (BlockToken.ofAntlers (commented before [] after)).map
      (BlockToken.movedTo (commented before inside after) (widened before inside))
  findings : ∀ ctx : RuleContext,
    unterminatedTag { ctx with text := commented before inside after } =
      (unterminatedTag { ctx with text := commented before [] after }).map
        (Finding.movedTo (commented before [] after) (commented before inside after)
          (widened before inside))

/-- What stands in front of the comment keeps its place. -/
theorem widened_before {offset : Nat} (h : offset ≤ before.length) (inside : Text) :
    widened before inside offset = offset := if_neg (by omega)

/-- What stands behind the comment is moved as far as the comment is longer. -/
theorem widened_behind (before inside : Text) (offset : Nat) :
    widened before inside (behind before [] offset) = behind before inside offset := by
  unfold widened behind
  rw [List.length_nil, if_pos (by omega)]
  omega

/-- The tags of a text end in it. -/
theorem le_length_of_mem_scan {text : Text} {t : Tag} (ht : t ∈ Tag.scan text) :
    t.start ≤ text.length ∧ t.stop ≤ text.length := by
  have hstands := Tag.scan_standsAt ht
  have hstop : t.stop = t.start + t.raw.length := by
    obtain ⟨m, -, rfl⟩ := List.mem_map.mp ht
    rfl
  have hlength := hstands.reads.length_le
  rw [List.length_drop] at hlength
  have hle := hstands.offset_le
  omega

/-- Behind the comment the findings show the same text. -/
theorem excerpt_behind (before inside after : Text) (offset : Nat) :
    excerpt (commented before inside after) (behind before inside offset) = excerpt after offset := by
  rw [commented, behind, excerpt_append_right, ← length_comment, excerpt_append_right]

theorem empty_quiet : Quiet [] := quiet_of_no_opening (by simp [openBraces])

/-- The findings behind an empty comment, moved, are those behind any comment. -/
theorem findings_behind (before inside after : Text) (ctx : RuleContext) :
    (((unterminatedIn after).map (behind before [])).map
        (unterminatedAt { ctx with text := commented before [] after })).map
          (Finding.movedTo (commented before [] after) (commented before inside after)
            (widened before inside)) =
      ((unterminatedIn after).map (behind before inside)).map
        (unterminatedAt { ctx with text := commented before inside after }) := by
  rw [List.map_map, List.map_map, List.map_map]
  apply List.map_congr_left
  intro offset _
  have hsame := unterminatedAt_eq_movedTo_iff ctx (commented before [] after)
    (commented before inside after) (widened before inside) (behind before [] offset)
  rw [widened_behind, excerpt_behind, excerpt_behind] at hsame
  exact (hsame.mpr rfl).symm

/-- The findings in front of the comment are the same if their evidence is. -/
theorem findings_before_iff (before inside after : Text) (ctx : RuleContext) :
    (unterminatedIn before).map (unterminatedAt { ctx with text := commented before inside after }) =
        ((unterminatedIn before).map
          (unterminatedAt { ctx with text := commented before [] after })).map
            (Finding.movedTo (commented before [] after) (commented before inside after)
              (widened before inside)) ↔
      ∀ start ∈ unterminatedIn before,
        excerpt (commented before inside after) start =
          excerpt (commented before [] after) start := by
  rw [List.map_map, List.map_inj_left]
  refine forall₂_congr fun start hstart => ?_
  have hlt := lt_length_of_mem_unterminatedIn hstart
  have hiff := unterminatedAt_eq_movedTo_iff ctx (commented before [] after)
    (commented before inside after) (widened before inside) start
  rw [widened_before (Nat.le_of_lt hlt)] at hiff
  exact hiff

section Commented

variable (h : Settled before)
include h

theorem scan_commented (inside after : Text) :
    Tag.scan (commented before inside after) =
      Tag.scan before ++ ((Tag.scan (comment inside)).map (Tag.moved (before.length + ·)) ++
        (Tag.scan after).map (Tag.moved (behind before inside))) := by
  rw [commented, Tag.scan_append h, Tag.scan_append (comment_settled inside), List.map_append,
    List.map_map, length_comment]
  rfl

theorem unterminatedIn_commented (inside after : Text) :
    unterminatedIn (commented before inside after) =
      unterminatedIn before ++ ((unterminatedIn (comment inside)).map (before.length + ·) ++
        (unterminatedIn after).map (behind before inside)) := by
  rw [commented, unterminatedIn_append h, unterminatedIn_append (comment_settled inside),
    List.map_append, List.map_map, length_comment]
  rfl

/-- The tags around an empty comment, moved, are those around any comment. -/
theorem scan_moved (inside after : Text) :
    (Tag.scan (commented before [] after)).map (Tag.moved (widened before inside)) =
      Tag.scan before ++ (Tag.scan after).map (Tag.moved (behind before inside)) := by
  rw [scan_commented h, empty_quiet.tags, List.map_nil, List.nil_append, List.map_append,
    List.map_map]
  congr 1
  · conv_rhs => rw [← List.map_id (Tag.scan before)]
    apply List.map_congr_left
    intro t ht
    obtain ⟨hstart, hstop⟩ := le_length_of_mem_scan ht
    rw [Tag.moved, widened_before hstart, widened_before hstop]
    rfl
  · apply List.map_congr_left
    intro t _
    show Tag.moved _ (Tag.moved _ t) = _
    simp only [Tag.moved, widened_behind]

theorem tags_iff (inside after : Text) :
    Tag.scan (commented before inside after) =
        (Tag.scan (commented before [] after)).map (Tag.moved (widened before inside)) ↔
      Tag.scan (comment inside) = [] := by
  rw [scan_moved h, scan_commented h, List.append_cancel_left_eq, List.append_left_eq_self,
    List.map_eq_nil_iff]

theorem findings_iff (inside after : Text) (ctx : RuleContext) :
    unterminatedTag { ctx with text := commented before inside after } =
        (unterminatedTag { ctx with text := commented before [] after }).map
          (Finding.movedTo (commented before [] after) (commented before inside after)
            (widened before inside)) ↔
      unterminatedIn (comment inside) = [] ∧ ∀ start ∈ unterminatedIn before,
        excerpt (commented before inside after) start =
          excerpt (commented before [] after) start := by
  rw [← findings_before_iff before inside after ctx, unterminatedTag_eq, unterminatedTag_eq,
    unterminatedIn_commented h, unterminatedIn_commented h, empty_quiet.openings, List.map_nil,
    List.nil_append, List.map_append, List.map_append, List.map_append, List.map_append,
    findings_behind before inside after ctx]
  constructor
  · intro heq
    obtain ⟨hfront, hrest⟩ := List.append_inj heq (by simp)
    refine ⟨?_, hfront⟩
    rw [List.append_left_eq_self, List.map_eq_nil_iff, List.map_eq_nil_iff] at hrest
    exact hrest
  · rintro ⟨hnone, hfront⟩
    rw [hnone, hfront]
    rfl

end Commented

/-- **A comment is inert exactly if it is quiet** and no opening without an end stands so near in front
of it that its evidence shows what the comment says; the text behind the comment does not matter.  A
comment without an opening in it is quiet. -/
theorem inert_iff (h : Settled before) (inside after : Text) :
    (Inert before inside after ↔ Quiet inside ∧ ∀ start ∈ unterminatedIn before,
      excerpt (commented before inside after) start = excerpt (commented before [] after) start) ∧
    (¬ openBraces <:+: inside → Quiet inside) := by
  refine ⟨⟨fun hinert => ?_, ?_⟩, quiet_of_no_opening⟩
  · let ctx : RuleContext := ⟨[], .antlers, .default, .default, false, []⟩
    obtain ⟨hopenings, hfront⟩ := (findings_iff h inside after ctx).mp (hinert.findings ctx)
    exact ⟨⟨(tags_iff h inside after).mp hinert.tags, hopenings⟩, hfront⟩
  · rintro ⟨hquiet, hfront⟩
    have htags := (tags_iff h inside after).mpr hquiet.tags
    exact
      { tags := htags
        tokens := BlockToken.ofAntlers_of_moved htags
        findings := fun ctx => (findings_iff h inside after ctx).mpr ⟨hquiet.openings, hfront⟩ }

theorem inert_iff_note :
    Settled "<b>\x7b\x7b title \x7d\x7d</b>" ∧
      Inert "<b>\x7b\x7b title \x7d\x7d</b>" " a\n note " "\x7b\x7b body \x7d\x7d" := by
  have hsettled : Settled "<b>\x7b\x7b title \x7d\x7d</b>" := by decide +kernel
  have hnone : unterminatedIn "<b>\x7b\x7b title \x7d\x7d</b>" = [] := by decide +kernel
  have hinert := inert_iff hsettled " a\n note " "\x7b\x7b body \x7d\x7d"
  have hnoOpening : ¬ openBraces <:+: (" a\n note " : Text) := by
    rw [← Text.contains_iff]
    decide +kernel
  refine ⟨hsettled, hinert.1.mpr ⟨hinert.2 hnoOpening, ?_⟩⟩
  rw [hnone]
  intro start hstart
  cases hstart

/-- A tag in a comment is read as a tag. -/
theorem not_inert_tag :
    Settled [] ∧ ¬ '#' :: closeBraces <:+: (" \x7b\x7b x \x7d\x7d " : Text) ∧
      ¬ Inert [] " \x7b\x7b x \x7d\x7d " [] := by
  rw [← Text.contains_iff]
  refine ⟨by decide +kernel, by decide +kernel, fun hinert => ?_⟩
  have hlength := congrArg List.length hinert.tags
  rw [List.length_map] at hlength
  exact absurd hlength (by decide +kernel)

end Comment
end TemplateLint
