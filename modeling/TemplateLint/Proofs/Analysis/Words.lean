import TemplateLint.Analysis.Optimizations
import TemplateLint.Proofs.Text.Forward
import TemplateLint.Proofs.Text.Scanning
import TemplateLint.Proofs.Text.Ways

/-!
# Whole words

A text stands as a whole word in another one where no word goes on at its ends (`Text.HasWord`).  In two
texts in a row a text stands in one of them or reaches across the place where they meet
(`Text.place_of_append`); a word does not reach across, unless a word goes on there
(`Text.WholeAt.split`).  The words that are read off a text are those that stand in it as whole words
(`Optimizations.mem_wordsOf_iff`).
-/
namespace TemplateLint

namespace Text

/-- A text between two others is a whole word: no word goes on at its ends. -/
structure WholeAt (before after : Text) : Prop where
  left : before.getLast?.any isWord = false
  right : after.head?.any isWord = false

/-- A name stands in a text as a whole word. -/
def HasWord (name text : Text) : Prop :=
  ∃ before after, text = before ++ name ++ after ∧ WholeAt before after

/-- A name that consists of characters of words. -/
structure Plain (name : Text) : Prop where
  ne_nil : name ≠ []
  word : ∀ c ∈ name, isWord c = true

/-- No word goes on where two texts meet. -/
def Apart (first second : Text) : Prop :=
  first.getLast?.any isWord = false ∨ second.head?.any isWord = false

variable {name first second before after : Text}

/-- A text in two texts in a row stands in one of them, or it reaches across the place where they
meet. -/
theorem place_of_append (h : first ++ second = before ++ name ++ after) :
    (∃ after', first = before ++ name ++ after' ∧ after = after' ++ second) ∨
    (∃ before', before = first ++ before' ∧ second = before' ++ name ++ after) ∨
    ∃ front back, name = front ++ back ∧ front ≠ [] ∧ back ≠ [] ∧ first = before ++ front ∧
      second = back ++ after := by
  rw [List.append_assoc] at h
  rcases List.append_eq_append_iff.mp h with ⟨more, rfl, hsecond⟩ | ⟨more, rfl, hname⟩
  · exact Or.inr (Or.inl ⟨more, rfl, by rw [hsecond, List.append_assoc]⟩)
  rcases List.append_eq_append_iff.mp hname with ⟨rest, rfl, rfl⟩ | ⟨rest, rfl, rfl⟩
  · exact Or.inl ⟨rest, by rw [List.append_assoc], rfl⟩
  by_cases hmore : more = []
  · subst hmore
    refine Or.inr (Or.inl ⟨[], ?_, rfl⟩)
    rw [List.append_nil, List.append_nil]
  by_cases hrest : rest = []
  · subst hrest
    refine Or.inl ⟨[], ?_, rfl⟩
    rw [List.append_nil, List.append_nil]
  · exact Or.inr (Or.inr ⟨more, rest, rfl, hmore, hrest, rfl, rfl⟩)

/-- A whole word stays one where the text in front of it is cut off. -/
theorem WholeAt.of_append_left (h : WholeAt (first ++ before) after) : WholeAt before after := by
  refine ⟨?_, h.right⟩
  rcases List.eq_nil_or_concat before with rfl | ⟨before, c, rfl⟩
  · rfl
  · have hleft := h.left
    rwa [List.getLast?_append_of_ne_nil _ (by simp)] at hleft

/-- And where the text behind it is cut off. -/
theorem WholeAt.of_append_right (h : WholeAt before (after ++ second)) : WholeAt before after := by
  refine ⟨h.left, ?_⟩
  cases after with
  | nil => rfl
  | cons c after => exact h.right

/-- **A word in two texts in a row stands in one of them**, unless a word goes on where they meet. -/
theorem WholeAt.split (h : WholeAt before after) (hplain : ∀ c ∈ name, isWord c = true)
    (hapart : Apart first second) (hsplit : first ++ second = before ++ name ++ after) :
    (∃ after', first = before ++ name ++ after' ∧ WholeAt before after') ∨
      ∃ before', before = first ++ before' ∧ second = before' ++ name ++ after ∧
        WholeAt before' after := by
  rcases place_of_append hsplit with ⟨after', hfirst, rfl⟩ | ⟨before', rfl, hsecond⟩ |
    ⟨front, back, rfl, hfront, hback, rfl, rfl⟩
  · exact Or.inl ⟨after', hfirst, h.of_append_right⟩
  · exact Or.inr ⟨before', rfl, hsecond, h.of_append_left⟩
  · -- the characters on both sides of the place belong to the name
    exfalso
    rcases hapart with hlast | hhead
    · have hword := hplain _ (List.mem_append_left back (List.getLast_mem hfront))
      rw [List.getLast?_append_of_ne_nil _ hfront, List.getLast?_eq_some_getLast hfront,
        Option.any_some, hword] at hlast
      cases hlast
    · obtain ⟨c, back, rfl⟩ := List.exists_cons_of_ne_nil hback
      rw [List.cons_append, List.head?_cons, Option.any_some, hplain c (by simp)] at hhead
      cases hhead

/-- A whole word stays one between texts with which no word goes on. -/
theorem WholeAt.extend (h : WholeAt before after) (hfirst : first.getLast?.any isWord = false)
    (hsecond : second.head?.any isWord = false) : WholeAt (first ++ before) (after ++ second) := by
  refine ⟨?_, ?_⟩
  · rw [List.getLast?_append]
    cases hlast : before.getLast? with
    | none => exact hfirst
    | some c =>
      have hleft := h.left
      rwa [hlast] at hleft
  · rw [List.head?_append]
    cases hhead : after.head? with
    | none => exact hsecond
    | some c =>
      have hright := h.right
      rwa [hhead] at hright

/-- No word goes on behind a text without characters of words. -/
theorem any_getLast?_of_forall (h : ∀ c ∈ first, isWord c = false) :
    first.getLast?.any isWord = false := by
  cases hlast : first.getLast? with
  | none => rfl
  | some c => exact h c (List.mem_of_getLast? hlast)

/-- A text without characters of words does not hold a name. -/
theorem Plain.not_infix (hname : Plain name) (h : ∀ c ∈ first, isWord c = false) :
    first ≠ before ++ name ++ after := by
  rintro rfl
  obtain ⟨c, more, rfl⟩ := List.exists_cons_of_ne_nil hname.ne_nil
  have hc := hname.word c List.mem_cons_self
  rw [h c (by simp)] at hc
  cases hc

/-- A name does not reach beyond a text behind which no word goes on. -/
theorem Plain.length_le (hname : Plain name) (h : first ++ second = name ++ after)
    (hfirst : first ≠ []) (hlast : first.getLast?.any isWord = false) :
    name.length ≤ first.length := by
  rcases List.append_eq_append_iff.mp h with ⟨more, rfl, -⟩ | ⟨more, rfl, -⟩
  · have hword := hname.word _ (List.mem_append_left more (List.getLast_mem hfirst))
    rw [List.getLast?_eq_some_getLast hfirst, Option.any_some, hword] at hlast
    cases hlast
  · rw [List.length_append]
    exact Nat.le_add_right _ _

/-- Characters that belong to no word do not matter in front of a text. -/
theorem Plain.hasWord_append_iff (hname : Plain name) (h : ∀ c ∈ first, isWord c = false) :
    HasWord name (first ++ second) ↔ HasWord name second := by
  constructor
  · rintro ⟨before, after, hsplit, hwhole⟩
    rcases hwhole.split hname.word (Or.inl (any_getLast?_of_forall h)) hsplit with
      ⟨after', hfirst, -⟩ | ⟨before', -, hsecond, hwhole⟩
    · exact absurd hfirst (hname.not_infix h)
    · exact ⟨before', after, hsecond, hwhole⟩
  · rintro ⟨before, after, rfl, hwhole⟩
    refine ⟨first ++ before, after, by simp only [List.append_assoc], ?_⟩
    have hnil : ([] : Text).head?.any isWord = false := rfl
    simpa only [List.append_nil] using hwhole.extend (any_getLast?_of_forall h) hnil

end Text

namespace Optimizations

open Pattern

variable {s : Spot} {m : Match} {text v : Text}

/-- Where a word starts, it is read up to its end. -/
theorem mem_ways_wholeWord {groups : List Capture} {q : Progress} :
    q ∈ ways wholeWord ⟨s, groups⟩ ↔ ∃ read after, s.rest = read ++ after ∧ Text.Plain read ∧
      s.last.any isWord = false ∧ after.head?.any isWord = false ∧
      q = ⟨s.past read after, groups⟩ := by
  -- an edge of a word lies at either end of a run of its characters
  have hfirst : ∀ {read after : Text} {last : Option Char}, Text.Plain read →
      (isEdge last (read ++ after).head? = true ↔ last.any isWord = false) := by
    intro read after last hread
    obtain ⟨c, more, rfl⟩ := List.exists_cons_of_ne_nil hread.ne_nil
    exact isEdge_before_iff (hread.word c List.mem_cons_self)
  have hlast : ∀ {read after : Text} {last : Option Char}, Text.Plain read →
      (isEdge (read.getLast?.or last) after.head? = true ↔ after.head?.any isWord = false) := by
    intro read after last hread
    rw [List.getLast?_eq_some_getLast hread.ne_nil, Option.some_or]
    exact isEdge_behind_iff (hread.word _ (List.getLast_mem hread.ne_nil))
  show q ∈ ways (seq _ (seq _ _)) _ ↔ _
  rw [ways, List.mem_flatMap]
  constructor
  · rintro ⟨r, hr, hq⟩
    obtain ⟨hstart, rfl⟩ := mem_ways_edge.mp hr
    obtain ⟨r, hr, hq⟩ := List.mem_flatMap.mp hq
    obtain ⟨read, after, hrest, hword, hleast, rfl⟩ := mem_ways_many.mp hr
    obtain ⟨hend, rfl⟩ := mem_ways_edge.mp hq
    have hread : Text.Plain read := ⟨List.length_pos_iff.mp hleast, hword⟩
    rw [hrest] at hstart
    exact ⟨read, after, hrest, hread, (hfirst hread).mp hstart, (hlast hread).mp hend, rfl⟩
  · rintro ⟨read, after, hrest, hread, hstart, hend, rfl⟩
    refine ⟨_, mem_ways_edge.mpr ⟨?_, rfl⟩, List.mem_flatMap.mpr ⟨_, mem_ways_many.mpr
      ⟨read, after, hrest, hread.word, List.length_pos_iff.mpr hread.ne_nil, rfl⟩,
        mem_ways_edge.mpr ⟨(hlast hread).mpr hend, rfl⟩⟩⟩
    rw [hrest]
    exact (hfirst hread).mpr hstart

/-- A word is read in one way only. -/
theorem matchAt?_wholeWord_iff : wholeWord.matchAt? s = some m ↔ ∃ read after, s.rest = read ++ after ∧
    Text.Plain read ∧ s.last.any isWord = false ∧ after.head?.any isWord = false ∧
      m = ⟨s.passed, s.passed + read.length, read, []⟩ := by
  rw [matchAt?_iff_of_unique]
  · simp only [mem_ways_wholeWord]
    constructor
    · rintro ⟨_, ⟨read, after, hrest, hread, hstart, hend, rfl⟩, rfl⟩
      exact ⟨read, after, hrest, hread, hstart, hend, matchFrom_past hrest []⟩
    · rintro ⟨read, after, hrest, hread, hstart, hend, rfl⟩
      exact ⟨_, ⟨read, after, hrest, hread, hstart, hend, rfl⟩,
        (matchFrom_past hrest []).symm⟩
  · simp only [mem_ways_wholeWord]
    rintro _ ⟨read, after, hrest, hread, -, hend, rfl⟩ _ ⟨read', after', hrest', hread', -, hend', rfl⟩
    obtain rfl : read = read' := by
      rw [← Text.takeWhile_append_of_head hread.word hend, ← hrest, hrest',
        Text.takeWhile_append_of_head hread'.word hend']
    rw [List.append_cancel_left (hrest.symm.trans hrest')]

/-- **The words of a text** are those that stand in it as whole words. -/
theorem mem_wordsOf_iff : v ∈ wordsOf text ↔ Text.Plain v ∧ Text.HasWord v text := by
  rw [wordsOf, List.mem_map]
  constructor
  · rintro ⟨m, hm, rfl⟩
    obtain ⟨hle, hmatch, -⟩ := mem_findAll_iff.mp hm
    rw [Spot.ofOffset_eq hle] at hmatch
    obtain ⟨read, after, hrest, hread, hstart, hend, heq⟩ := matchAt?_wholeWord_iff.mp hmatch
    have htext : m.text = read := congrArg Match.text heq
    rw [htext]
    refine ⟨hread, text.take m.start, after, ?_, hstart, hend⟩
    rw [List.append_assoc, ← hrest, List.take_append_drop]
  · rintro ⟨hplain, before, after, rfl, hleft, hright⟩
    refine ⟨⟨before.length, before.length + v.length, v, []⟩, mem_findAll_iff.mpr ⟨?_, ?_, ?_⟩, rfl⟩
    · rw [List.append_assoc, List.length_append]
      exact Nat.le_add_right _ _
    · rw [Spot.ofOffset_eq (by simp), List.append_assoc, List.take_left, List.drop_left]
      exact matchAt?_wholeWord_iff.mpr ⟨v, after, rfl, hplain, hleft, hright, rfl⟩
    · -- a word that is read earlier and reaches beyond the place has the character in front of it
      intro earlier hearlier hlt
      obtain ⟨hle, hmatch, -⟩ := mem_findAll_iff.mp hearlier
      rw [Spot.ofOffset_eq hle] at hmatch
      obtain ⟨read, behind, hrest, hread, -, -, heq⟩ := matchAt?_wholeWord_iff.mp hmatch
      have hstop : earlier.stop = earlier.start + read.length := congrArg Match.stop heq
      have hne : before.drop earlier.start ≠ [] := mt List.drop_eq_nil_iff.mp (Nat.not_le.mpr hlt)
      have hlast : (before.drop earlier.start).getLast? = before.getLast? := by
        rw [List.getLast?_drop, if_neg (Nat.not_le.mpr hlt)]
      rw [List.append_assoc, List.drop_append_of_le_length (Nat.le_of_lt hlt)] at hrest
      have hle := hread.length_le hrest hne (hlast ▸ hleft)
      rw [List.length_drop] at hle
      show earlier.stop ≤ before.length
      have hstart : earlier.start < before.length := hlt
      omega

end Optimizations
end TemplateLint
