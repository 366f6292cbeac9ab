import TemplateLint.Proofs.Antlers.Pipes

/-!
# Blanks behind the head

Blanks of every kind are stripped from the ends of a tag, but only a space ends its head.  So the blanks
in front of the first space behind the first word stay at the word (`Tag.parse_spaced`), and two tags
that differ in the blanks there have the same parts exactly if these are the same
(`Tag.parse_spaced_iff`).  Where nothing but a slash or a modifier follows the word, no blanks stay.
-/
namespace TemplateLint

open Text Pattern

/-! ## Words, gaps and what follows -/

/-- The first word of a tag. -/
structure HeadWord (head : Text) : Prop where
  ne_nil : head ≠ []
  plain : ∀ c ∈ head, isBlank c = false ∧ c ≠ '|'
  first : head.head? ≠ some '/'

/-- The blanks between a word and what follows it. -/
structure Gap (gap : Text) : Prop where
  ne_nil : gap ≠ []
  blank : ∀ c ∈ gap, isBlank c = true

/-- What stands behind one gap is no part of another. -/
theorem Gap.stray_ne {stray more word : Text} (hgap : Gap (stray ++ ' ' :: more)) {c : Char}
    (hc : isBlank c = false) (gap' : Text) : stray ≠ gap' ++ c :: word := by
  rintro rfl
  have hmem : c ∈ gap' ++ c :: word ++ ' ' :: more := by simp
  rw [hgap.blank c hmem] at hc
  cases hc

/-- A word with what follows it behind a gap, if anything does. -/
def spaced (head gap body : Text) : Text := if body = [] then head else head ++ gap ++ body

variable {head gap gap' rest : Text}

namespace HeadWord

variable (h : HeadWord head)
include h

theorem space_not_mem : ' ' ∉ head := fun hmem => absurd (h.plain _ hmem).1 (by decide)

theorem tight : Tight head := Tight.of_forall fun c hc => (h.plain c hc).1

theorem spaced_head? (gap body : Text) : (spaced head gap body).head? = head.head? := by
  unfold spaced
  split
  · rfl
  · rw [List.append_assoc, List.head?_append_of_ne_nil _ h.ne_nil]

/-- A gap is stripped with the blanks behind it. -/
theorem stripRight_spaced (hgap : Gap gap) (body : Text) :
    stripRight (head ++ gap ++ body) = spaced head gap (stripRight body) := by
  have hword : stripRight (head ++ gap) = head := by
    rw [stripRight_append, if_pos (stripRight_eq_nil_iff.mpr hgap.blank),
      stripRight_of_last h.tight.last]
  rw [stripRight_append, hword]
  rfl

theorem strip_spaced (hgap : Gap gap) (body : Text) :
    strip (head ++ gap ++ body) = spaced head gap (stripRight body) := by
  rw [strip, h.stripRight_spaced hgap, stripLeft, trimLeft, dropWhile_of_head]
  intro c hc
  rw [h.spaced_head?] at hc
  exact h.tight.first c hc

end HeadWord

/-! ## The slash of a tag that closes itself -/

namespace Tag

/-- What stands behind the first word, without blanks at its end and without the slash of a tag that closes
itself. -/
def spoken (rest : Text) : Text :=
  if (stripRight rest).getLast? = some '/' then stripRight (stripRight rest).dropLast
  else stripRight rest

theorem spoken_prefix_self (rest : Text) : spoken rest <+: rest := by
  unfold spoken
  split
  · exact (stripRight_prefix_self _).trans ((List.dropLast_prefix _).trans (stripRight_prefix_self rest))
  · exact stripRight_prefix_self rest

/-- A slash alone is not spoken, any other character that is no blank is. -/
theorem spoken_cons {c : Char} (hc : isBlank c = false) (more : Text) :
    spoken (c :: more) = if c = '/' ∧ stripRight more = [] then [] else c :: spoken more := by
  unfold spoken
  rw [stripRight_cons hc]
  by_cases hmore : stripRight more = []
  · rw [hmore]
    by_cases hslash : c = '/'
    · subst hslash
      rfl
    · simp [hslash]
  · have hspoken : ¬ (c = '/' ∧ stripRight more = []) := fun h => hmore h.2
    rw [if_neg hspoken, List.getLast?_cons_of_ne_nil hmore, List.dropLast_cons_of_ne_nil hmore,
      stripRight_cons hc]
    split <;> rfl

/-- A pipe is spoken first if it comes first. -/
theorem spoken_head? (rest : Text) : (spoken rest).head? = some '|' ↔ rest.head? = some '|' := by
  constructor
  · intro hpipe
    obtain ⟨after, hafter⟩ := spoken_prefix_self rest
    rw [← hafter, List.head?_append, hpipe]
    rfl
  · intro hpipe
    obtain ⟨more, rfl⟩ := List.head?_eq_some_iff.mp hpipe
    rw [spoken_cons (by decide), if_neg fun h => absurd h.1 (by decide)]
    rfl

/-- Nothing of the remainder is spoken in front of the first modifier: it is the slash of a tag that
closes itself, or a modifier. -/
def Bare (rest : Text) : Prop :=
  stripRight rest = ['/'] ∨ ∃ more, rest = '|' :: more ∧ more.head? ≠ some '|'

/-- What is spoken in front of the first modifier. -/
def ownPart (rest : Text) : Text := stripRight ((splitPipes none (spoken rest)).headD [])

/-- What is spoken starts with the first character of the remainder, unless that is bare. -/
theorem ownPart_cons {c : Char} (hc : isBlank c = false) (more : Text) :
    (Bare (c :: more) ∧ ownPart (c :: more) = []) ∨
      (¬ Bare (c :: more) ∧ ∃ body, ownPart (c :: more) = c :: body) := by
  have hbare : Bare (c :: more) ↔
      (c = '/' ∧ stripRight more = []) ∨ Separates none c more.head? := by
    rw [Bare, stripRight_cons hc, List.cons.injEq]
    simp [Separates]
  have hspoken : Separates none c (spoken more).head? ↔ Separates none c more.head? :=
    and_congr_right fun _ => and_congr_right fun _ => not_congr (spoken_head? more)
  rw [hbare, ownPart, spoken_cons hc]
  by_cases hslash : c = '/' ∧ stripRight more = []
  · rw [if_pos hslash]
    exact Or.inl ⟨Or.inl hslash, rfl⟩
  rw [if_neg hslash]
  by_cases hpipe : Separates none c more.head?
  · rw [splitPipes_of_separates (hspoken.mpr hpipe)]
    exact Or.inl ⟨Or.inr hpipe, rfl⟩
  · obtain ⟨piece, pieces, hpieces⟩ := exists_splitPipes (some c) (spoken more)
    rw [splitPipes_of_not_separates (mt hspoken.mp hpipe), hpieces]
    exact Or.inr ⟨not_or.mpr ⟨hslash, hpipe⟩, _, stripRight_cons hc piece⟩

/-! ## Parameters behind blanks -/

/-- Blanks in front of the parameters do not matter. -/
theorem readParams_blanks {before : Text} (hbefore : ∀ c ∈ before, isBlank c = true) (text : Text) :
    readParams (before ++ text) = readParams text := by
  induction before with
  | nil => rfl
  | cons c before ih =>
    obtain ⟨hc, hbefore⟩ := List.forall_mem_cons.mp hbefore
    rw [← ih hbefore, List.cons_append, readParams_eq, readParams_eq]
    generalize before ++ text = text
    have hstart : paramPattern.startsNot (some c) = true := by
      have hnot : isParamChar c = false := by
        rw [Bool.eq_false_iff]
        intro hparam
        rw [isBlank_of_isParamChar hparam] at hc
        cases hc
      simp [paramPattern, chain, startsNot, hnot]
    -- a name does not look back
    have hunaware : paramPattern.matchAt? ⟨1, some c, text⟩ =
        paramPattern.matchAt? ⟨1, none, text⟩ := by
      cases text <;> rfl
    have hfound : paramPattern.findAll (c :: text) =
        (paramPattern.findAll text).map (Match.moved (1 + ·)) := by
      rw [findAll, allFrom_cons_of_startsNot hstart,
        allFrom_resume (Nat.zero_le _) (Nat.le_refl _), allFrom_last hunaware]
      exact allFrom_moved 1 0 0 none text
    rw [hfound, List.map_map]
    rfl

/-! ## The tag -/

/-- The pieces of a tag are those of what is spoken; the word and the gap stand in front of the first. -/
theorem splitPipes_spaced (h : HeadWord head) (hgap : Gap gap) (body : Text) :
    ∃ piece, splitPipes none (spaced head gap body) = piece :: (splitPipes none body).drop 1 ∧
      strip piece = spaced head gap (stripRight ((splitPipes none body).headD [])) := by
  by_cases hbody : body = []
  · subst hbody
    have hplain : '|' ∉ head := fun hmem => (h.plain _ hmem).2 rfl
    exact ⟨head, splitPipes_of_not_mem hplain none, strip_of_tight h.tight⟩
  · have hplain : '|' ∉ head ++ gap := by
      rw [List.mem_append, not_or]
      exact ⟨fun hmem => (h.plain _ hmem).2 rfl, fun hmem => absurd (hgap.blank _ hmem) (by decide)⟩
    have hlast : (head ++ gap).getLast?.or none ≠ some '|' := by
      rw [Option.or_none]
      exact fun hpipe => hplain (List.mem_of_getLast? hpipe)
    have hmeet : ¬ Meet (head ++ gap) body := fun hmeet => hplain (List.mem_of_getLast? hmeet.1)
    obtain ⟨piece, pieces, hpieces⟩ := exists_splitPipes none body
    refine ⟨head ++ gap ++ piece, ?_, ?_⟩
    · rw [spaced, if_neg hbody,
        splitPipes_append_of_not_lonePipe (not_lonePipe_of_not_mem hplain) hmeet,
        splitPipes_congr hlast (Option.some_ne_none '|').symm, hpieces]
      rfl
    · rw [hpieces]
      exact h.strip_spaced hgap piece

/-- The slash of a tag that closes itself is cut off with the blanks around it. -/
theorem unslashed_spaced (h : HeadWord head) (hgap : Gap gap) {content : Text}
    (hcontent : content = spaced head gap (stripRight rest)) (hrest : stripRight rest ≠ []) :
    (if content.getLast? == some '/' && content.head? != some '/' then stripRight content.dropLast
      else content) = spaced head gap (spoken rest) := by
  have hfirst : (content.head? != some '/') = true := by
    rw [hcontent, h.spaced_head?]
    simpa using h.first
  have hwhole : content = head ++ gap ++ stripRight rest := by
    rw [hcontent, spaced, if_neg hrest]
  rw [hfirst, Bool.and_true, hwhole, List.getLast?_append_of_ne_nil _ hrest,
    List.dropLast_append_of_ne_nil hrest, h.stripRight_spaced hgap, spoken]
  by_cases hslash : (stripRight rest).getLast? = some '/'
  · rw [if_pos hslash, if_pos (by simpa using hslash)]
  · rw [if_neg hslash, if_neg (by simpa using hslash), spaced, if_neg hrest]

/-- **The parts of a tag by the spacing behind its first word.** -/
theorem parse_spaced (h : HeadWord head) (hgap : Gap gap) {c : Char} {more : Text}
    (hc : isBlank c = false) (start : Nat) (raw : Text) :
    let t := parse (head ++ gap ++ c :: more) start raw
    let cut := cutAt ' ' (spaced head gap (ownPart (c :: more)))
    t.head = cut.1 ∧ t.space = (splitHead cut.1).1 ∧ t.method = (splitHead cut.1).2 ∧
      t.params = readParams (cut.2.getD []) ∧
      t.modifiers = (((splitPipes none (spoken (c :: more))).drop 1).map modifierName).filter
        (!·.isEmpty) := by
  have hrest : stripRight (c :: more) ≠ [] := by
    rw [stripRight_cons hc]
    exact List.cons_ne_nil _ _
  have hslash := unslashed_spaced h hgap (h.strip_spaced hgap (c :: more)) hrest
  have hopen : ((spaced head gap (spoken (c :: more))).head? == some '/') = false := by
    rw [h.spaced_head?]
    simpa using h.first
  obtain ⟨piece, hpieces, hpiece⟩ := splitPipes_spaced h hgap (spoken (c :: more))
  intro t cut
  simp only [t, parse, hslash, hopen, hpieces, Bool.false_eq_true, if_false, List.headD_cons, hpiece]
  exact ⟨rfl, rfl, rfl, rfl, rfl⟩

/-! ## Two gaps -/

/-- Two tags have the same head, with the same parts, the same parameters and the same modifiers. -/
structure SameParts (t t' : Tag) : Prop where
  head : t.head = t'.head
  space : t.space = t'.space
  method : t.method = t'.method
  params : t.params = t'.params
  modifiers : t.modifiers = t'.modifiers

/-- The same blanks stand in front of the first space of two gaps. -/
def SameToSpace (gap gap' : Text) : Prop :=
  gap = gap' ∨ ∃ stray more more' : Text, ' ' ∉ stray ∧ gap = stray ++ ' ' :: more ∧
    gap' = stray ++ ' ' :: more'

/-- How the word is cut where something follows it behind a gap: at the first space of the gap, or else
behind the gap. -/
theorem cutAt_gap (h : HeadWord head) (gap : Text) {c : Char} (hc : isBlank c = false) (body : Text) :
    (∃ stray more, ' ' ∉ stray ∧ gap = stray ++ ' ' :: more ∧
      (cutAt ' ' (head ++ gap ++ c :: body)).1 = head ++ stray) ∨
    (cutAt ' ' (head ++ gap ++ c :: body)).1 = head ++ (gap ++ c :: (cutAt ' ' body).1) := by
  rw [List.append_assoc, cutAt_append_of_not_mem h.space_not_mem]
  by_cases hspace : ' ' ∈ gap
  · obtain ⟨stray, more, rfl, hstray⟩ := List.eq_append_cons_of_mem hspace
    refine Or.inl ⟨stray, more, hstray, rfl, ?_⟩
    rw [List.append_assoc, List.cons_append, cutAt_append hstray]
  · have hne : c ≠ ' ' := by
      rintro rfl
      exact absurd hc (by decide)
    refine Or.inr ?_
    rw [cutAt_append_of_not_mem hspace, cutAt, if_neg hne]

/-- The heads are the same only if the gaps are as far as their first space. -/
theorem sameToSpace_of_cut (h : HeadWord head) (hgap : Gap gap) (hgap' : Gap gap') {c : Char}
    (hc : isBlank c = false) {body : Text}
    (hcut : (cutAt ' ' (head ++ gap ++ c :: body)).1 = (cutAt ' ' (head ++ gap' ++ c :: body)).1) :
    SameToSpace gap gap' := by
  -- each of the gaps has a space or none
  rcases cutAt_gap h gap hc body with ⟨stray, more, hstray, rfl, heq⟩ | heq <;>
    rcases cutAt_gap h gap' hc body with ⟨stray', more', -, rfl, heq'⟩ | heq' <;>
    rw [heq, heq'] at hcut
  · obtain rfl := List.append_cancel_left hcut
    exact Or.inr ⟨stray, more, more', hstray, rfl, rfl⟩
  · exact absurd (List.append_cancel_left hcut) (hgap.stray_ne hc gap')
  · exact absurd (List.append_cancel_left hcut).symm (hgap'.stray_ne hc gap)
  · exact Or.inl (List.append_cancel_right (List.append_cancel_left hcut))

/-- Gaps that are the same as far as their first space make no difference. -/
theorem cut_of_sameToSpace (h : HeadWord head) (hgap : Gap gap) (hgap' : Gap gap')
    (hsame : SameToSpace gap gap') (body : Text) :
    (cutAt ' ' (head ++ gap ++ body)).1 = (cutAt ' ' (head ++ gap' ++ body)).1 ∧
      readParams ((cutAt ' ' (head ++ gap ++ body)).2.getD []) =
        readParams ((cutAt ' ' (head ++ gap' ++ body)).2.getD []) := by
  obtain rfl | ⟨stray, more, more', hstray, rfl, rfl⟩ := hsame
  · exact ⟨rfl, rfl⟩
  have hplain : ' ' ∉ head ++ stray := by
    rw [List.mem_append, not_or]
    exact ⟨h.space_not_mem, hstray⟩
  have hcut (more : Text) : cutAt ' ' (head ++ (stray ++ ' ' :: more) ++ body) =
      (head ++ stray, some (more ++ body)) := by
    rw [← List.append_assoc, List.append_assoc, List.cons_append, cutAt_append hplain]
  have hbehind {more : Text} (hgap : Gap (stray ++ ' ' :: more)) :
      readParams (more ++ body) = readParams body :=
    readParams_blanks (fun c hc => hgap.blank c
      (List.mem_append_right stray (List.mem_cons_of_mem ' ' hc))) body
  rw [hcut, hcut]
  exact ⟨rfl, (hbehind hgap).trans (hbehind hgap').symm⟩

/-- The head is the first word only if the gap starts with a space. -/
theorem cut_eq_head_iff (h : HeadWord head) (hgap : Gap gap) (body : Text) :
    (cutAt ' ' (head ++ gap ++ body)).1 = head ↔ gap.head? = some ' ' := by
  obtain ⟨c, gap, rfl⟩ := List.exists_cons_of_ne_nil hgap.ne_nil
  rw [List.append_assoc, cutAt_append_of_not_mem h.space_not_mem, List.append_right_eq_self,
    List.cons_append, cutAt, List.head?_cons, Option.some_inj]
  by_cases hc : c = ' '
  · simp [hc]
  · simp [hc]

/-- **Only a space ends the head.**  Two tags that differ in the blanks behind their first word have the
same parts exactly if these blanks are the same as far as the first space, or nothing but a slash or a
modifier follows; and the head is the first word exactly if the blanks start with a space, or nothing
but these follows. -/
theorem parse_spaced_iff (h : HeadWord head) (hgap : Gap gap) (hgap' : Gap gap')
    (hrest : ∃ c, rest.head? = some c ∧ isBlank c = false) (start start' : Nat) (raw raw' : Text) :
    let t := parse (head ++ gap ++ rest) start raw
    let t' := parse (head ++ gap' ++ rest) start' raw'
    (SameParts t t' ↔ Bare rest ∨ SameToSpace gap gap') ∧
      (t.head = head ↔ Bare rest ∨ gap.head? = some ' ') := by
  intro t t'
  obtain ⟨c, hfirst, hc⟩ := hrest
  obtain ⟨more, rfl⟩ := List.head?_eq_some_iff.mp hfirst
  obtain ⟨hhead, hspace, hmethod, hparams, hmodifiers⟩ := parse_spaced h hgap hc start raw
  obtain ⟨hhead', hspace', hmethod', hparams', hmodifiers'⟩ := parse_spaced h hgap' hc start' raw'
  -- the modifiers do not depend on the gap, and the head decides its own parts
  have hsame : SameParts t t' ↔ t.head = t'.head ∧ t.params = t'.params := by
    refine ⟨fun hparts => ⟨hparts.head, hparts.params⟩, fun ⟨hheads, hreads⟩ => ?_⟩
    have hcuts := hhead.symm.trans (hheads.trans hhead')
    exact
      { head := hheads
        space := by rw [hspace, hspace', hcuts]
        method := by rw [hmethod, hmethod', hcuts]
        params := hreads
        modifiers := hmodifiers.trans hmodifiers'.symm }
  rw [hsame, hhead, hhead', hparams, hparams']
  rcases ownPart_cons hc more with ⟨hbare, hown⟩ | ⟨hbare, body, hown⟩
  · have hword (gap : Text) : spaced head gap [] = head := if_pos rfl
    have hcut : (cutAt ' ' head).1 = head := by rw [cutAt_of_not_mem h.space_not_mem]
    simp only [hown, hword, hcut, hbare, and_self, true_or]
  · have hword (gap : Text) : spaced head gap (c :: body) = head ++ gap ++ c :: body := if_neg (by simp)
    simp only [hown, hword, hbare, false_or]
    refine ⟨⟨fun ⟨hcut, _⟩ => sameToSpace_of_cut h hgap hgap' hc hcut, fun hgaps => ?_⟩, ?_⟩
    · exact cut_of_sameToSpace h hgap hgap' hgaps (c :: body)
    · exact cut_eq_head_iff h hgap (c :: body)

/-- Behind a space more blanks of any kind make no difference. -/
theorem parse_spaced_nav :
    let t := parse ("nav:main".toList ++ " ".toList ++ "from=\"/\" | upper".toList) 0 []
    let t' := parse ("nav:main".toList ++ " \n\t".toList ++ "from=\"/\" | upper".toList) 0 []
    SameParts t t' ∧ t.head = "nav:main" := by
  intro t t'
  have h : HeadWord "nav:main" := ⟨by decide, List.all_iff_forall_prop.mp (by decide), by decide⟩
  have hgap : Gap " " := ⟨by decide, List.all_eq_true.mp (by decide)⟩
  have hgap' : Gap " \n\t" := ⟨by decide, List.all_eq_true.mp (by decide)⟩
  have hsame : SameToSpace " " " \n\t" := Or.inr ⟨[], [], "\n\t", by decide, rfl, rfl⟩
  have hrest : ∃ c, (String.toList "from=\"/\" | upper").head? = some c ∧ isBlank c = false :=
    ⟨'f', rfl, by decide⟩
  obtain ⟨hparts, hhead⟩ := parse_spaced_iff h hgap hgap' hrest 0 0 [] []
  exact ⟨hparts.mpr (Or.inr hsame), hhead.mpr (Or.inr rfl)⟩

/-- A line end behind the first word stays at it. -/
theorem parse_line_end :
    let t := parse ("collection:blog".toList ++ "\n  ".toList ++ "limit=\"5\"".toList) 0 []
    let t' := parse ("collection:blog".toList ++ " ".toList ++ "limit=\"5\"".toList) 0 []
    t.head = "collection:blog\n" ∧ t'.head = "collection:blog" ∧ ¬ SameParts t t' := by
  intro t t'
  have hhead : t.head = "collection:blog\n" := by decide +kernel
  have hhead' : t'.head = "collection:blog" := by decide +kernel
  refine ⟨hhead, hhead', fun hparts => ?_⟩
  have hsame := hparts.head
  rw [hhead, hhead'] at hsame
  exact absurd hsame (by decide)

end Tag
end TemplateLint
