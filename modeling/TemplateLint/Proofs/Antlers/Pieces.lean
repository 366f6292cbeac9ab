import TemplateLint.Antlers.Tag
import TemplateLint.Proofs.Text.Occurrences

/-!
# Pieces between pipes

A pipe separates if no other one stands next to it.  Where no two pipes meet, the pieces of two texts in a
row are those of each, the last of the first and the first of the second in one
(`Tag.splitPipes_append_eq`).  So a text without a lone pipe runs into the first piece of what follows it
(`Tag.splitPipes_append_of_not_lonePipe`), and the first piece of a text with one ends there
(`Tag.splitPipes_of_lonePipe`), whatever stands around the text.  A lone pipe is never in the first piece
(`Tag.not_lonePipe_headD_splitPipes`).
-/
namespace TemplateLint

namespace Tag

/-! ## Lone pipes -/

/-- A character between two others separates two pieces. -/
def Separates (last : Option Char) (c : Char) (next : Option Char) : Prop :=
  c = '|' ∧ last ≠ some '|' ∧ next ≠ some '|'

instance (last : Option Char) (c : Char) (next : Option Char) : Decidable (Separates last c next) :=
  inferInstanceAs (Decidable (_ ∧ _ ∧ _))

/-- A pipe of the text has no other one next to it, `last` being the character in front of the text. -/
def LonePipe (last : Option Char) (text : Text) : Prop :=
  ∃ front back : Text, text = front ++ '|' :: back ∧ front.getLast?.or last ≠ some '|' ∧
    back.head? ≠ some '|'

/-- Two pipes meet where one text ends and another starts. -/
def Meet (text rest : Text) : Prop := text.getLast? = some '|' ∧ rest.head? = some '|'

variable {last last' : Option Char} {c : Char} {text rest : Text}

theorem not_lonePipe_nil : ¬ LonePipe last [] := by
  rintro ⟨front, back, hsplit, -⟩
  cases front <;> cases hsplit

/-- The first character is a lone pipe, or one comes later. -/
theorem lonePipe_cons : LonePipe last (c :: rest) ↔
    Separates last c rest.head? ∨ LonePipe (some c) rest := by
  constructor
  · rintro ⟨front, back, hsplit, hbefore, hbehind⟩
    cases front with
    | nil =>
      obtain ⟨rfl, rfl⟩ := List.cons.inj hsplit
      exact Or.inl ⟨rfl, hbefore, hbehind⟩
    | cons first front =>
      obtain ⟨rfl, rfl⟩ := List.cons.inj hsplit
      rw [getLast?_cons_or] at hbefore
      exact Or.inr ⟨front, back, rfl, hbefore, hbehind⟩
  · rintro (⟨rfl, hbefore, hbehind⟩ | ⟨front, back, rfl, hbefore, hbehind⟩)
    · exact ⟨[], rest, rfl, hbefore, hbehind⟩
    · exact ⟨c :: front, back, rfl, by rwa [getLast?_cons_or], hbehind⟩

instance decidableLonePipe : (last : Option Char) → (text : Text) → Decidable (LonePipe last text)
  | _, [] => isFalse not_lonePipe_nil
  | _, c :: rest =>
    have := decidableLonePipe (some c) rest
    decidable_of_iff _ lonePipe_cons.symm

theorem not_lonePipe_of_not_mem (h : '|' ∉ text) : ¬ LonePipe last text := by
  rintro ⟨front, back, rfl, -⟩
  exact h (List.mem_append_right front List.mem_cons_self)

/-- A lone pipe of a text stays one where no pipe follows the text. -/
theorem LonePipe.append (h : LonePipe last text) (hrest : rest.head? ≠ some '|') :
    LonePipe last (text ++ rest) := by
  obtain ⟨front, back, rfl, hbefore, hbehind⟩ := h
  refine ⟨front, back ++ rest, by rw [List.append_assoc, List.cons_append], hbefore, ?_⟩
  rw [List.head?_append, ne_eq, Option.or_eq_some_iff]
  rintro (hhead | ⟨-, hhead⟩)
  · exact hbehind hhead
  · exact hrest hhead

/-- In front of the text only a pipe matters. -/
theorem lonePipe_congr (h : last ≠ some '|') (h' : last' ≠ some '|') :
    LonePipe last text ↔ LonePipe last' text := by
  cases text with
  | nil => exact iff_of_false not_lonePipe_nil not_lonePipe_nil
  | cons c rest => simp [lonePipe_cons, Separates, h, h']

theorem Meet.cons (h : Meet text rest) : Meet (c :: text) rest := by
  refine ⟨?_, h.2⟩
  rw [List.getLast?_cons, h.1]
  rfl

/-- Whether a character of a text separates does not depend on what follows the text, unless two pipes
meet there. -/
theorem separates_append (h : ¬ Meet (c :: text) rest) :
    Separates last c (text ++ rest).head? ↔ Separates last c text.head? := by
  cases text with
  | nil =>
    refine and_congr_right fun hc => and_congr_right fun _ => iff_of_true (fun hrest => ?_) (by simp)
    exact h ⟨congrArg some hc, hrest⟩
  | cons next text => rfl

/-! ## Splitting -/

theorem exists_splitPipes (last : Option Char) (text : Text) :
    ∃ piece pieces, splitPipes last text = piece :: pieces := by
  cases text with
  | nil => exact ⟨[], [], rfl⟩
  | cons c rest =>
    rw [splitPipes]
    split
    · exact ⟨_, _, rfl⟩
    · split <;> exact ⟨_, _, rfl⟩

/-- A lone pipe ends a piece. -/
theorem splitPipes_of_separates (h : Separates last c rest.head?) :
    splitPipes last (c :: rest) = [] :: splitPipes (some c) rest := by
  rw [splitPipes]
  exact if_pos h

/-- Any other character goes to the first piece of what follows it. -/
theorem splitPipes_of_not_separates (h : ¬ Separates last c rest.head?) :
    splitPipes last (c :: rest) = (splitPipes (some c) rest).modifyHead (c :: ·) := by
  obtain ⟨piece, pieces, hpieces⟩ := exists_splitPipes (some c) rest
  rw [splitPipes, hpieces]
  exact if_neg h

theorem splitPipes_congr (h : last ≠ some '|') (h' : last' ≠ some '|') :
    splitPipes last text = splitPipes last' text := by
  cases text with
  | nil => rfl
  | cons c rest => simp only [splitPipes, h, h', ne_eq, not_false_eq_true, true_and]

/-- Without a lone pipe a text is one piece. -/
theorem splitPipes_of_not_lonePipe (h : ¬ LonePipe last text) : splitPipes last text = [text] := by
  induction text generalizing last with
  | nil => rfl
  | cons c rest ih =>
    rw [lonePipe_cons, not_or] at h
    rw [splitPipes_of_not_separates h.1, ih h.2]
    rfl

/-- With a lone pipe the first piece ends at one. -/
theorem splitPipes_of_lonePipe (h : LonePipe last text) :
    ∃ front back piece pieces, text = front ++ '|' :: back ∧
      splitPipes last text = front :: piece :: pieces := by
  induction text generalizing last with
  | nil => exact absurd h not_lonePipe_nil
  | cons c rest ih =>
    by_cases hhere : Separates last c rest.head?
    · obtain ⟨piece, pieces, hpieces⟩ := exists_splitPipes (some c) rest
      refine ⟨[], rest, piece, pieces, by rw [hhere.1]; rfl, ?_⟩
      rw [splitPipes_of_separates hhere, hpieces]
    · obtain ⟨front, back, piece, pieces, rfl, hsplit⟩ := ih ((lonePipe_cons.mp h).resolve_left hhere)
      refine ⟨c :: front, back, piece, pieces, rfl, ?_⟩
      rw [splitPipes_of_not_separates hhere, hsplit]
      rfl

/-- The first piece starts with a pipe that follows another one. -/
theorem head?_headD_splitPipes (h : text.head? = some '|') :
    ((splitPipes (some '|') text).headD []).head? = some '|' := by
  obtain ⟨rest, rfl⟩ := List.head?_eq_some_iff.mp h
  obtain ⟨piece, pieces, hpieces⟩ := exists_splitPipes (some '|') rest
  rw [splitPipes_of_not_separates fun hsep => hsep.2.1 rfl, hpieces]
  rfl

/-- The first piece of a text holds no lone pipe. -/
theorem not_lonePipe_headD_splitPipes (last : Option Char) (text : Text) :
    ¬ LonePipe last ((splitPipes last text).headD []) := by
  induction text generalizing last with
  | nil => exact not_lonePipe_nil
  | cons c rest ih =>
    by_cases hhere : Separates last c rest.head?
    · rw [splitPipes_of_separates hhere]
      exact not_lonePipe_nil
    obtain ⟨piece, pieces, hpieces⟩ := exists_splitPipes (some c) rest
    have hpiece := ih (some c)
    rw [splitPipes_of_not_separates hhere, hpieces]
    rw [hpieces] at hpiece
    rw [List.modifyHead_cons, List.headD_cons, lonePipe_cons]
    rintro (⟨rfl, hbefore, hbehind⟩ | hlater)
    · -- the pipe that follows this one begins the piece behind it
      have hnext : rest.head? = some '|' := Decidable.byContradiction fun hne =>
        hhere ⟨rfl, hbefore, hne⟩
      have hhead := head?_headD_splitPipes hnext
      rw [hpieces] at hhead
      exact hbehind hhead
    · exact hpiece hlater

/-- Pieces behind others, the last of the first and the first of the second in one. -/
def glue : List Text → List Text → List Text
  | [], more => more
  | [piece], more => more.modifyHead (piece ++ ·)
  | piece :: next :: pieces, more => piece :: glue (next :: pieces) more

theorem glue_modifyHead (c : Char) (piece : Text) (pieces more : List Text) :
    glue ((piece :: pieces).modifyHead (c :: ·)) more =
      (glue (piece :: pieces) more).modifyHead (c :: ·) := by
  cases pieces with
  | nil =>
    show more.modifyHead (c :: piece ++ ·) = _
    rw [glue, List.modifyHead_modifyHead]
    rfl
  | cons next pieces => rfl

/-- **Where no two pipes meet, the pieces of two texts in a row are those of each**, but for the place
where they meet. -/
theorem splitPipes_append_eq (h : ¬ Meet text rest) : splitPipes last (text ++ rest) =
    glue (splitPipes last text) (splitPipes (text.getLast?.or last) rest) := by
  induction text generalizing last with
  | nil =>
    show splitPipes last rest = (splitPipes last rest).modifyHead id
    rw [List.modifyHead_id]
    rfl
  | cons c text ih =>
    have hrest := @ih (some c) fun hmeet => h hmeet.cons
    obtain ⟨piece, pieces, hpieces⟩ := exists_splitPipes (some c) text
    rw [List.cons_append, getLast?_cons_or]
    by_cases hhere : Separates last c text.head?
    · rw [splitPipes_of_separates ((separates_append h).mpr hhere), splitPipes_of_separates hhere, hrest,
        hpieces]
      rfl
    · rw [splitPipes_of_not_separates (mt (separates_append h).mp hhere),
        splitPipes_of_not_separates hhere, hrest, hpieces, glue_modifyHead]

/-- A lone pipe behind a text starts a new piece. -/
theorem splitPipes_append_pipe (hbefore : text.getLast?.or last ≠ some '|')
    (hbehind : rest.head? ≠ some '|') : splitPipes last (text ++ '|' :: rest) =
      splitPipes last text ++ splitPipes (some '|') rest := by
  have hmeet : ¬ Meet text ('|' :: rest) := fun h => hbefore (by rw [h.1]; rfl)
  have hglue : ∀ pieces more, pieces ≠ [] → glue pieces ([] :: more) = pieces ++ more := by
    intro pieces more hne
    induction pieces with
    | nil => exact absurd rfl hne
    | cons piece pieces ih =>
      cases pieces with
      | nil => simp [glue]
      | cons next pieces => exact congrArg (piece :: ·) (ih (List.cons_ne_nil next pieces))
  obtain ⟨piece, pieces, hpieces⟩ := exists_splitPipes last text
  rw [splitPipes_append_eq hmeet, splitPipes_of_separates ⟨rfl, hbefore, hbehind⟩, hpieces,
    hglue _ _ (List.cons_ne_nil piece pieces)]

/-- Without a lone pipe a text runs into the first piece of what follows it. -/
theorem splitPipes_append_of_not_lonePipe (hnone : ¬ LonePipe last text) (hmeet : ¬ Meet text rest) :
    splitPipes last (text ++ rest) =
      (splitPipes (text.getLast?.or last) rest).modifyHead (text ++ ·) := by
  rw [splitPipes_append_eq hmeet, splitPipes_of_not_lonePipe hnone]
  rfl

end Tag
end TemplateLint
