import TemplateLint.Proofs.Antlers.Pieces
import TemplateLint.Proofs.Text.Forward

/-!
# The layout of a tag

Between its braces a tag has a margin of blanks and perhaps a slash, then what it says, which is its
head and behind a gap its rest, then again blanks and perhaps a slash, and then its modifiers from the
first lone pipe on (`Tag.Layout`, `Tag.exists_layout`).  A head that the tag assigns starts with no blank,
holds no space and no lone pipe (`Tag.IsName`, `Tag.isName_head`).
-/
namespace TemplateLint

open Text

namespace Tag

/-- The text of a tag without blanks around it and without the slash that closes it in place. -/
def unclosed (inside : Text) : Text :=
  let body := inside.strip
  if body.getLast? == some '/' && body.head? != some '/' then stripRight body.dropLast else body

/-- The text of a tag without blanks and slashes around it; it is cut at its pipes. -/
def content (inside : Text) : Text :=
  let body := unclosed inside
  if body.head? == some '/' then stripLeft (body.drop 1) else body

/-- What a tag says: its text up to the first lone pipe, without blanks and slashes around it. -/
def said (inside : Text) : Text := strip ((splitPipes none (content inside)).headD [])

/-- What stands in front of what a tag says: blanks, and for a closing tag a slash and blanks. -/
def margin (inside : Text) : Text :=
  match inside.dropWhile isBlank with
  | '/' :: rest => inside.takeWhile isBlank ++ '/' :: rest.takeWhile isBlank
  | _ => inside.takeWhile isBlank

/-- A character that may stand around what a tag says. -/
def IsAround (c : Char) : Prop := isBlank c = true ∨ c = '/'

theorem not_isAround_pipe : ¬ IsAround '|' := by
  rintro (hblank | hslash)
  · cases hblank
  · cases hslash

/-- What stands between the braces of a tag, part by part. -/
structure Layout (inside : Text) (t : Tag) (gap pad piped : Text) : Prop where
  split : inside = margin inside ++ (said inside ++ pad) ++ piped
  words : said inside = t.head ++ (gap ++ t.rest)
  blank : ∀ c ∈ gap, isBlank c = true
  spaced : (gap = [] ∧ t.rest = []) ∨ gap.head? = some ' '
  around : ∀ c ∈ pad, IsAround c
  lone : piped = [] ∨ ∃ back, piped = '|' :: back ∧
    (margin inside ++ (said inside ++ pad)).getLast? ≠ some '|' ∧ back.head? ≠ some '|'

/-- What a head is like that a tag assigns. -/
structure IsName (v : Text) : Prop where
  ne_nil : v ≠ []
  first : ∀ c, v.head? = some c → isBlank c = false
  space : ' ' ∉ v
  pipe : ¬ LonePipe none v

section
variable {front back : Text} {c : Char}

theorem margin_of_blanks (hfront : ∀ c ∈ front, isBlank c = true) (hc : isBlank c = false)
    (hslash : c ≠ '/') (back : Text) : margin (front ++ c :: back) = front := by
  have hhead : (c :: back).head?.any isBlank = false := hc
  rw [margin, dropWhile_append_of_head hfront hhead, takeWhile_append_of_head hfront hhead]
  split
  · next heq => exact absurd (List.cons.inj heq).1 hslash
  · rfl

theorem margin_of_slash {between : Text} (hfront : ∀ c ∈ front, isBlank c = true)
    (hbetween : ∀ c ∈ between, isBlank c = true) (hc : isBlank c = false) (back : Text) :
    margin (front ++ '/' :: (between ++ c :: back)) = front ++ '/' :: between := by
  have hslash : ('/' :: (between ++ c :: back)).head?.any isBlank = false := rfl
  rw [margin, dropWhile_append_of_head hfront hslash, takeWhile_append_of_head hfront hslash]
  exact congrArg (front ++ '/' :: ·) (takeWhile_append_of_head hbetween hc)

theorem isAround_of_mem_margin {inside : Text} (h : c ∈ margin inside) : IsAround c := by
  rw [margin] at h
  split at h
  · rcases List.mem_append.mp h with h | h
    · exact Or.inl (List.mem_takeWhile_imp h)
    · exact (List.mem_cons.mp h).elim Or.inr fun h => Or.inl (List.mem_takeWhile_imp h)
  · exact Or.inl (List.mem_takeWhile_imp h)

/-- A tag starts with its margin. -/
theorem margin_prefix (inside : Text) : margin inside <+: inside := by
  have hall := List.takeWhile_append_dropWhile (p := isBlank) (l := inside)
  rw [margin]
  split
  · next rest hdrop =>
    refine ⟨rest.dropWhile isBlank, ?_⟩
    rw [List.append_assoc, List.cons_append, List.takeWhile_append_dropWhile, ← hdrop, hall]
  · exact ⟨_, hall⟩

/-! ## Around the content -/

/-- Behind a tag that is closed in place stand a slash and blanks. -/
theorem exists_unclosed_append (inside : Text) : ∃ before after,
    inside = before ++ unclosed inside ++ after ∧ (∀ c ∈ before, isBlank c = true) ∧
      (∀ c ∈ after, IsAround c) ∧ ∀ c, (unclosed inside).head? = some c → isBlank c = false := by
  obtain ⟨before, after, hinside, hbefore, hafter⟩ := exists_strip_append inside
  have hfirst := (tight_strip inside).first
  rw [unclosed]
  split
  · next hclosed =>
    simp only [Bool.and_eq_true, beq_iff_eq] at hclosed
    obtain ⟨cut, hbody, hcut⟩ := exists_stripRight_append (inside.strip.dropLast)
    have hlast : inside.strip = inside.strip.dropLast ++ ['/'] :=
      (List.dropLast_append_getLast? '/' hclosed.1).symm
    generalize stripRight inside.strip.dropLast = body at hbody ⊢
    refine ⟨before, cut ++ '/' :: after, ?_, hbefore, ?_, fun c hc => hfirst c ?_⟩
    · rw [hinside, hlast, hbody]
      simp only [List.append_assoc, List.singleton_append]
    · intro c hc
      rcases List.mem_append.mp hc with hc | hc
      · exact Or.inl (hcut c hc)
      · exact (List.mem_cons.mp hc).elim Or.inr fun hc => Or.inl (hafter c hc)
    · rw [hlast, hbody, List.append_assoc, List.head?_append, hc, Option.some_or]
  · exact ⟨before, after, hinside, hbefore, fun c hc => Or.inl (hafter c hc), hfirst⟩

/-- Around the content of a tag there are blanks and slashes only, and in front of it the margin. -/
theorem exists_content_append (inside : Text) : ∃ front cut,
    inside = front ++ content inside ++ cut ∧ (∀ c ∈ front, IsAround c) ∧ (∀ c ∈ cut, IsAround c) ∧
    (∀ c, (content inside).head? = some c → isBlank c = false) ∧
    (content inside ≠ [] → front = margin inside) := by
  obtain ⟨before, after, hinside, hbefore, hafter, hfirst⟩ := exists_unclosed_append inside
  rw [content]
  generalize unclosed inside = body at hinside hfirst ⊢
  split
  · next hslash =>
    obtain ⟨more, rfl⟩ := List.head?_eq_some_iff.mp (beq_iff_eq.mp hslash)
    obtain ⟨between, hmore, hbetween, hhead⟩ := exists_stripLeft_append more
    show ∃ front cut, inside = front ++ stripLeft more ++ cut ∧ _ ∧ _ ∧
      (∀ c, (stripLeft more).head? = some c → _) ∧ (stripLeft more ≠ [] → _)
    generalize stripLeft more = found at hmore hhead ⊢
    subst hmore
    refine ⟨before ++ '/' :: between, after, ?_, ?_, hafter, hhead, fun hne => ?_⟩
    · rw [hinside]
      simp only [List.append_assoc, List.cons_append]
    · intro c hc
      rcases List.mem_append.mp hc with hc | hc
      · exact Or.inl (hbefore c hc)
      · exact (List.mem_cons.mp hc).elim Or.inr fun hc => Or.inl (hbetween c hc)
    · obtain ⟨c, found, rfl⟩ := List.exists_cons_of_ne_nil hne
      rw [hinside, List.append_assoc, List.cons_append, List.append_assoc, List.cons_append,
        margin_of_slash hbefore hbetween (hhead c rfl)]
  · next hslash =>
    refine ⟨before, after, hinside, fun c hc => Or.inl (hbefore c hc), hafter, hfirst, fun hne => ?_⟩
    obtain ⟨c, body, rfl⟩ := List.exists_cons_of_ne_nil hne
    rw [hinside, List.append_assoc, List.cons_append, margin_of_blanks hbefore (hfirst c rfl)]
    rintro rfl
    exact hslash rfl

/-- A tag is its margin, its content, and blanks and slashes behind it. -/
theorem exists_margin_append (inside : Text) : ∃ cut,
    inside = margin inside ++ content inside ++ cut ∧ (∀ c ∈ cut, IsAround c) ∧
      ∀ c, (content inside).head? = some c → isBlank c = false := by
  obtain ⟨front, cut, hinside, hfront, hcut, hfirst, hmargin⟩ := exists_content_append inside
  by_cases hcontent : content inside = []
  · -- then there are blanks and slashes only, and the margin is as long as it can be
    obtain ⟨more, hmore⟩ := margin_prefix inside
    refine ⟨more, by rw [hcontent, List.append_nil, hmore], fun c hc => ?_, hfirst⟩
    have hmem : c ∈ inside := hmore ▸ List.mem_append_right _ hc
    rw [hinside, hcontent, List.append_nil] at hmem
    exact (List.mem_append.mp hmem).elim (hfront c) (hcut c)
  · exact ⟨cut, hmargin hcontent ▸ hinside, hcut, hfirst⟩

/-! ## Inside the content -/

/-- The first piece of a text, and the lone pipe behind it if there is one. -/
theorem exists_first_piece (last : Option Char) (text : Text) : ∃ behind,
    text = (splitPipes last text).headD [] ++ behind ∧ (behind = [] ∨ ∃ back, behind = '|' :: back ∧
      ((splitPipes last text).headD []).getLast?.or last ≠ some '|' ∧ back.head? ≠ some '|') := by
  induction text generalizing last with
  | nil => exact ⟨[], rfl, Or.inl rfl⟩
  | cons c rest ih =>
    by_cases hhere : Separates last c rest.head?
    · rw [splitPipes_of_separates hhere]
      obtain ⟨rfl, hbefore, hbehind⟩ := hhere
      exact ⟨'|' :: rest, rfl, Or.inr ⟨rest, rfl, hbefore, hbehind⟩⟩
    · obtain ⟨piece, pieces, hpieces⟩ := exists_splitPipes (some c) rest
      obtain ⟨behind, hrest, hpipe⟩ := ih (some c)
      rw [splitPipes_of_not_separates hhere, hpieces]
      rw [hpieces] at hrest hpipe
      refine ⟨behind, congrArg (c :: ·) hrest, hpipe.imp id ?_⟩
      rintro ⟨back, hback, hbefore, hbehind⟩
      refine ⟨back, hback, ?_, hbehind⟩
      show (c :: piece).getLast?.or last ≠ some '|'
      rw [getLast?_cons_or]
      exact hbefore

end

/-- A text without blanks at its ends is cut at its first space into a head and a rest behind a gap. -/
theorem exists_cut_append {word : Text} (h : Tight word) : ∃ gap,
    word = (cutAt ' ' word).1 ++ (gap ++ strip ((cutAt ' ' word).2.getD [])) ∧
      (∀ c ∈ gap, isBlank c = true) ∧
      ((gap = [] ∧ strip ((cutAt ' ' word).2.getD []) = []) ∨ gap.head? = some ' ') := by
  cases hcut : (cutAt ' ' word).2 with
  | none =>
    refine ⟨[], ?_, List.forall_mem_nil _, Or.inl ⟨rfl, rfl⟩⟩
    rw [cutAt_of_not_mem (cutAt_eq_none_iff.mp hcut)]
    exact (List.append_nil word).symm
  | some behind =>
    have hword := (cutAt_spec ' ' word).2 behind hcut
    -- what is behind the space ends where the text does, so blanks are stripped at its start only
    have hlast : ∀ c, behind.getLast? = some c → isBlank c = false := fun c hc => h.last c (by
      rw [hword, List.getLast?_append, List.getLast?_cons, hc]
      rfl)
    obtain ⟨gap, hbehind, hgap, -⟩ := exists_stripLeft_append behind
    rw [Option.getD_some, strip, stripRight_of_last hlast]
    refine ⟨' ' :: gap, ?_, List.forall_mem_cons.mpr ⟨by decide, hgap⟩, Or.inr rfl⟩
    rw [List.cons_append, ← hbehind]
    exact hword

theorem tight_said (inside : Text) : Tight (said inside) := tight_strip _

/-- The first piece of a tag is what the tag says, and blanks behind it. -/
theorem exists_said_append (inside : Text) : ∃ pad,
    (splitPipes none (content inside)).headD [] = said inside ++ pad ∧ ∀ c ∈ pad, isBlank c = true := by
  obtain ⟨cut, -, -, hfirst⟩ := exists_margin_append inside
  obtain ⟨behind, hcontent, -⟩ := exists_first_piece none (content inside)
  rw [said]
  generalize (splitPipes none (content inside)).headD [] = piece at hcontent ⊢
  -- the first piece starts where the content does, so blanks are stripped at its end only
  rw [strip_of_first fun c hc => hfirst c (by rw [hcontent, List.head?_append, hc, Option.some_or])]
  exact exists_stripRight_append piece

section
variable (inside : Text) (start : Nat) (raw : Text)

/-- **Nothing but blanks, slashes and the modifiers is left out** of the head and the rest of a tag. -/
theorem exists_layout : ∃ gap pad piped, Layout inside (parse inside start raw) gap pad piped := by
  obtain ⟨cut, hinside, hcut, -⟩ := exists_margin_append inside
  obtain ⟨behind, hcontent, hbehind⟩ := exists_first_piece none (content inside)
  obtain ⟨pad, hpiece, hpad⟩ := exists_said_append inside
  obtain ⟨gap, hwords, hgap, hspaced⟩ := exists_cut_append (tight_said inside)
  have hhead : (parse inside start raw).head = (cutAt ' ' (said inside)).1 := rfl
  have hrest : (parse inside start raw).rest = strip ((cutAt ' ' (said inside)).2.getD []) := rfl
  rw [← hrest] at hspaced hwords
  rw [← hhead] at hwords
  clear hhead hrest
  generalize parse inside start raw = t at hwords hspaced ⊢
  have hpads : ∀ c ∈ pad, IsAround c := fun c hc => Or.inl (hpad c hc)
  rw [hpiece] at hcontent hbehind
  rcases hbehind with rfl | ⟨back, rfl, hbefore, hnext⟩
  · refine ⟨gap, pad ++ cut, [], ?_, hwords, hgap, hspaced, fun c hc => ?_, Or.inl rfl⟩
    · rw [hcontent, List.append_nil] at hinside
      simpa only [List.append_assoc, List.append_nil] using hinside
    · exact (List.mem_append.mp hc).elim (hpads c) (hcut c)
  · refine ⟨gap, pad, '|' :: (back ++ cut), ?_, hwords, hgap, hspaced, hpads,
      Or.inr ⟨back ++ cut, rfl, ?_, ?_⟩⟩
    · rw [hcontent] at hinside
      simpa only [List.append_assoc, List.cons_append] using hinside
    · rw [List.getLast?_append, ne_eq, Option.or_eq_some_iff]
      rw [Option.or_none] at hbefore
      rintro (hlast | ⟨-, hlast⟩)
      · exact hbefore hlast
      · exact not_isAround_pipe (isAround_of_mem_margin (List.mem_of_getLast? hlast))
    · rw [List.head?_append, ne_eq, Option.or_eq_some_iff]
      rintro (hhead | ⟨-, hhead⟩)
      · exact hnext hhead
      · exact not_isAround_pipe (hcut _ (List.mem_of_mem_head? hhead))

/-- A head with something behind it is a name. -/
theorem isName_head (h : (parse inside start raw).rest ≠ []) :
    IsName (parse inside start raw).head := by
  obtain ⟨gap, pad, piped, hlayout⟩ := exists_layout inside start raw
  obtain ⟨blanks, hpiece, hblanks⟩ := exists_said_append inside
  have hspace : ' ' ∉ (parse inside start raw).head := (cutAt_spec ' ' (said inside)).1
  have hfirst : ∀ c, (said inside).head? = some c → isBlank c = false := (tight_said inside).first
  have hwords := hlayout.words
  have hgap : (gap ++ (parse inside start raw).rest).head? = some ' ' := by
    rw [List.head?_append, hlayout.spaced.resolve_left fun hnone => h hnone.2, Option.some_or]
  generalize (parse inside start raw).head = head at hwords hspace ⊢
  generalize gap ++ (parse inside start raw).rest = behind at hwords hgap
  rw [hwords] at hfirst hpiece
  refine ⟨?_, fun c hc => hfirst c ?_, hspace, fun hlone => ?_⟩
  · rintro rfl
    exact absurd (hfirst ' ' hgap) (by decide)
  · rw [List.head?_append, hc, Option.some_or]
  · -- no pipe follows the head, so a lone pipe in it would cut it
    have hnext : behind.head? ≠ some '|' := by
      rw [hgap]
      decide
    have hpad : blanks.head? ≠ some '|' := fun hpipe =>
      absurd (hblanks _ (List.mem_of_mem_head? hpipe)) (by decide)
    refine not_lonePipe_headD_splitPipes none (content inside) ?_
    rw [hpiece]
    exact (hlone.append hnext).append hpad

end

end Tag
end TemplateLint
