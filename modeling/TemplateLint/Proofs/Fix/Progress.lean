import Mathlib.Logic.Function.Iterate
import TemplateLint.Proofs.Fix.Image

/-!
# Writing one attribute after another

A replacer can be applied to its line again and again.  The one for images leaves no image without an
alternative text up to the end of what it has written (`Image.not_undescribed_of_written`): an opening
in front of it that was not closed now reaches up to that end, and so it has the attribute as well.  What
follows is searched as before, so every application takes away exactly one match
(`Fix.imageReplacer_findAll`), and as many applications as there were matches take away all of them
(`Fix.imageReplacer_progress`).
-/
namespace TemplateLint

open Pattern

namespace Fix

/-- A line with the first stretch that a replacer finds replaced. -/
def Replacer.apply (r : Replacer) (line : Text) : Text :=
  match r.pattern.find? line with
  | some m => line.take m.start ++ r.write m.text ++ line.drop m.stop
  | none => line

namespace Replacer

variable {r : Replacer} {line : Text}

theorem apply_of_none (h : r.pattern.find? line = none) : r.apply line = line := by
  rw [apply, h]

theorem countIn_pos_iff (pattern : Pattern) (line : Text) :
    0 < pattern.countIn line ↔ (pattern.find? line).isSome = true := by
  rw [countIn, find?_eq_head?, List.isSome_head?]
  exact List.length_pos_iff

/-- If every application takes away one match, there are matches left until as many applications as
there were matches. -/
theorem isSome_iterate_iff (hstep : ∀ line, (r.pattern.find? line).isSome = true →
      r.pattern.countIn (r.apply line) + 1 = r.pattern.countIn line) (line : Text) (k : Nat) :
    (r.pattern.find? (r.apply^[k] line)).isSome = true ↔ k < r.pattern.countIn line := by
  induction k generalizing line with
  | zero => exact (countIn_pos_iff r.pattern line).symm
  | succ k ih =>
    rw [Function.iterate_succ_apply, ih]
    by_cases hsome : (r.pattern.find? line).isSome = true
    · have hcount := hstep line hsome
      omega
    · have hnone := hsome
      rw [Bool.not_eq_true, Option.isSome_eq_false_iff, Option.isNone_iff_eq_none] at hnone
      rw [apply_of_none hnone]
      rw [← countIn_pos_iff] at hsome
      omega

end Replacer

end Fix

/-! ## What is written holds no image without an alternative text -/

namespace Image

variable {lead close back inside : Text} {j : Nat}

theorem mentionsAlt_added (front close : Text) : MentionsAlt caseless (front ++ added close) := by
  have halt : (String.toList "alt=").map caseless = String.toList "alt=" := by decide +kernel
  have hword : (front ++ [' ']).getLast?.any isWord = false := by
    rw [List.getLast?_concat]
    decide
  refine ⟨front ++ [' '], String.toList "alt=", String.toList "\"\"" ++ close, ?_, halt, hword⟩
  unfold added
  rw [List.append_assoc, List.append_assoc]
  rfl

/-- No image tag starts inside of what is written. -/
theorem caseless_ne_of_mem_added (hclose : close ∈ [[], String.toList " /"]) {c : Char}
    (hc : c ∈ added close ++ ['>']) : caseless c ≠ '<' ∧ (c ∈ added close → c ≠ '>') := by
  have hboth : ∀ close ∈ [[], String.toList " /"],
      '<' ∉ (added close ++ ['>']).map caseless ∧ '>' ∉ added close := by decide
  obtain ⟨hopen, hend⟩ := hboth close hclose
  refine ⟨fun heq => hopen (heq ▸ List.mem_map_of_mem hc), fun hmem heq => hend (heq ▸ hmem)⟩

/-- **Up to the end of what is written there is no image without an alternative text**, if there is none
in what stands in front. -/
theorem not_undescribed_of_written
    (hlead : ∀ j inside, inside ++ ['>'] <+: lead.drop j → ¬ Undescribed caseless inside)
    (hclose : close ∈ [[], String.toList " /"]) (hj : j < (lead ++ (added close ++ ['>'])).length)
    (hinside : inside ++ ['>'] <+: (lead ++ (added close ++ ['>']) ++ back).drop j) :
    ¬ Undescribed caseless inside := by
  intro h
  rcases Nat.lt_or_ge lead.length j with hlt | hle
  · -- it starts behind the place of the attribute, where no character opens a tag
    obtain ⟨more, hopens⟩ := h.opens
    obtain ⟨c, rest, rfl, hc, -⟩ := List.map_eq_cons_iff.mp hopens.symm
    obtain ⟨after, hafter⟩ := hinside
    have hhere : (lead ++ (added close ++ ['>']) ++ back)[j]? = some c := by
      rw [← List.head?_drop, ← hafter]
      rfl
    rw [List.getElem?_append_left hj, List.getElem?_append_right (Nat.le_of_lt hlt)] at hhere
    exact (caseless_ne_of_mem_added hclose (List.mem_of_getElem? hhere)).1 hc
  · rw [List.append_assoc, List.drop_append_of_le_length hle] at hinside
    obtain ⟨after, hafter⟩ := hinside
    rw [List.append_assoc] at hafter
    by_cases hend : '>' ∈ lead.drop j
    · -- it ends in what stands in front
      obtain ⟨inside', rest, hrest, hunclosed⟩ := List.eq_append_cons_of_mem hend
      rw [hrest, List.append_assoc] at hafter
      obtain ⟨rfl, -⟩ := Text.split_unique h.unclosed hunclosed hafter
      refine hlead j inside ⟨rest, ?_⟩ h
      rw [hrest, List.append_assoc]
      rfl
    · -- it ends with what is written, and so it has the attribute
      have hunclosed : '>' ∉ lead.drop j ++ added close := by
        rw [List.mem_append, not_or]
        exact ⟨hend, fun hmem =>
          (caseless_ne_of_mem_added hclose (List.mem_append_left _ hmem)).2 hmem rfl⟩
      have hsplit : inside ++ '>' :: after = lead.drop j ++ added close ++ '>' :: back := by
        rw [List.append_assoc]
        rw [List.append_assoc (added close)] at hafter
        exact hafter
      obtain ⟨rfl, -⟩ := Text.split_unique h.unclosed hunclosed hsplit
      exact h.silent (mentionsAlt_added _ close)

end Image

namespace Fix

open Image

/-- The line in which an image is found, and the line with the attribute written. -/
theorem exists_imageReplacer_apply {line : Text} {m : Match}
    (h : imageReplacer.pattern.find? line = some m) :
    ∃ front inside back, First caseless line front.length inside ∧
      m = ⟨front.length, front.length + inside.length + 1, inside ++ ['>'], []⟩ ∧
      line = front ++ (inside ++ ['>']) ++ back ∧
      imageReplacer.apply line = front ++ addEmptyAlt (inside ++ ['>']) ++ back := by
  obtain ⟨_, inside, hfirst, rfl⟩ := (find?_pattern_iff key_caseless).mp h
  obtain ⟨front, back, rfl, hline⟩ := hfirst.exists_split
  refine ⟨front, inside, back, hfirst, rfl, hline, ?_⟩
  have hlength : front.length + inside.length + 1 = (front ++ (inside ++ ['>'])).length := by
    simp only [List.length_append, List.length_singleton, Nat.add_assoc]
  rw [Replacer.apply, h]
  show line.take front.length ++ addEmptyAlt _ ++ line.drop (front.length + inside.length + 1) = _
  rw [hlength, hline, List.drop_left, List.append_assoc front, List.take_left]

/-- Up to the end of what is written there is no image without an alternative text. -/
theorem matchAt?_written {line front inside back : Text}
    (h : First caseless line front.length inside)
    (hline : line = front ++ (inside ++ ['>']) ++ back) {j : Nat}
    (hj : j < (front ++ addEmptyAlt (inside ++ ['>'])).length) :
    (pattern caseless).matchAt?
      (Spot.ofOffset (front ++ addEmptyAlt (inside ++ ['>']) ++ back) j) = none := by
  obtain ⟨kept, cut, close, hinside, -, hclose, hwritten⟩ := exists_addEmptyAlt_eq inside
  -- what is kept of the tag stands in the line, and no end of a tag is in it
  have hlead : ∀ j inside, inside ++ ['>'] <+: (front ++ kept).drop j →
      ¬ Undescribed caseless inside := by
    intro j inside' hstands
    rcases Nat.lt_or_ge j front.length with hlt | hge
    · have hfront : front ++ kept <+: line := by
        refine ⟨cut ++ ['>'] ++ back, ?_⟩
        rw [hline, hinside]
        simp only [List.append_assoc]
      exact h.first j hlt inside' (hstands.trans (hfront.drop j))
    · rw [List.drop_append, List.drop_eq_nil_of_le hge, List.nil_append] at hstands
      have hmem := hstands.subset (List.mem_append_right inside' List.mem_cons_self)
      have hunclosed := h.undescribed.unclosed
      rw [hinside] at hunclosed
      exact absurd (List.mem_append_left cut (List.mem_of_mem_drop hmem)) hunclosed
  have hsplit : front ++ addEmptyAlt (inside ++ ['>']) = front ++ kept ++ (added close ++ ['>']) := by
    rw [hwritten]
    simp only [List.append_assoc]
  rw [hsplit] at hj ⊢
  rw [Option.eq_none_iff_forall_ne_some]
  intro m hm
  obtain ⟨inside', hstands, hundescribed, -⟩ := (matchAt?_pattern_iff key_caseless).mp hm
  exact not_undescribed_of_written hlead hclose hj hstands hundescribed

/-- **One application** takes away the match and leaves the later ones as they are, moved with the text
behind the tag. -/
theorem imageReplacer_findAll {line front inside back : Text}
    (h : First caseless line front.length inside)
    (hline : line = front ++ (inside ++ ['>']) ++ back) :
    imageReplacer.pattern.findAll line =
      ⟨front.length, front.length + inside.length + 1, inside ++ ['>'], []⟩ ::
        (imageReplacer.pattern.findAll back).map
          (Match.moved (front.length + inside.length + 1 + ·)) ∧
    imageReplacer.pattern.findAll (front ++ addEmptyAlt (inside ++ ['>']) ++ back) =
      (imageReplacer.pattern.findAll back).map
        (Match.moved ((front ++ addEmptyAlt (inside ++ ['>'])).length + ·)) := by
  have hlast := fun passed last last' => matchAt?_last key_caseless passed last last' back
  have hpattern : imageReplacer.pattern = pattern caseless := imageWithoutAlt_eq
  rw [hpattern]
  constructor
  · have hfind := (find?_pattern_iff key_caseless).mpr ⟨_, _, h, rfl⟩
    have hlength : front.length + inside.length + 1 = front.length + (inside ++ ['>']).length := by
      rw [List.length_append, List.length_singleton, Nat.add_assoc]
    rw [hline] at hfind ⊢
    rw [findAll_of_find? hfind rfl hlength (by simp), allFrom_eq_moved hlast (Nat.le_refl _)]
  · rw [findAll_pass fun j hj => matchAt?_written h hline hj,
      allFrom_eq_moved hlast (Nat.zero_le _)]

/-- **Every application of the replacer of images makes progress.**  If the pattern first matches in a
line, the application writes over that match alone and there is one match less; so there are matches left
until as many applications as there were matches, and then there are none. -/
theorem imageReplacer_progress (line : Text) :
    (∀ m, imageReplacer.pattern.find? line = some m →
      (∃ front back, front.length = m.start ∧ line = front ++ m.text ++ back ∧
        imageReplacer.apply line = front ++ addEmptyAlt m.text ++ back) ∧
      imageReplacer.pattern.countIn (imageReplacer.apply line) + 1 =
        imageReplacer.pattern.countIn line) ∧
    ∀ k, (imageReplacer.pattern.find? (imageReplacer.apply^[k] line)).isSome = true ↔
      k < imageReplacer.pattern.countIn line := by
  have hstep : ∀ line m, imageReplacer.pattern.find? line = some m →
      (∃ front back, front.length = m.start ∧ line = front ++ m.text ++ back ∧
        imageReplacer.apply line = front ++ addEmptyAlt m.text ++ back) ∧
      imageReplacer.pattern.countIn (imageReplacer.apply line) + 1 =
        imageReplacer.pattern.countIn line := by
    intro line m hm
    obtain ⟨front, inside, back, hfirst, rfl, hline, happly⟩ := exists_imageReplacer_apply hm
    obtain ⟨hbefore, hafter⟩ := imageReplacer_findAll hfirst hline
    refine ⟨⟨front, back, rfl, hline, happly⟩, ?_⟩
    rw [countIn, countIn, happly, hbefore, hafter, List.length_cons, List.length_map,
      List.length_map]
  refine ⟨hstep line, Replacer.isSome_iterate_iff (fun line hsome => ?_) line⟩
  obtain ⟨m, hm⟩ := Option.isSome_iff_exists.mp hsome
  exact (hstep line m hm).2

/-- Two images, the first of which is not closed in front of the second. -/
theorem imageReplacer_progress_nested :
    let line : Text := "<img src=\"a\" <img />"
    imageReplacer.pattern.find? line =
        some ⟨0, 20, "<img src=\"a\" <img />", []⟩ ∧
      imageReplacer.pattern.countIn (imageReplacer.apply line) + 1 =
        imageReplacer.pattern.countIn line := by
  intro line
  have hfind : imageReplacer.pattern.find? line =
      some ⟨0, 20, "<img src=\"a\" <img />", []⟩ := by decide +kernel
  exact ⟨hfind, ((imageReplacer_progress line).1 _ hfind).2⟩

end Fix
end TemplateLint
