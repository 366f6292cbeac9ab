import Mathlib.Data.List.Infix
import TemplateLint.Text.Search

/-!
# First occurrences

Where a text first occurs in another one does not change when the other one goes on behind the
occurrence (`indexOf?_append`).  Reading a given text, and reading up to the nearest place where one
follows, come down to prefixes and first occurrences (`Pattern.run_lit`, `Spot.before?_id`).
-/
namespace TemplateLint
namespace Text

variable {wanted text first : Text} {i : Nat}

/-- A text first occurs at the first place at which the other one goes on with it. -/
theorem indexOf?_eq_some_iff : indexOf? wanted text = some i ↔
    wanted <+: text.drop i ∧ ∀ j < i, ¬ wanted <+: text.drop j := by
  induction text generalizing i with
  | nil =>
    simp only [indexOf?, List.drop_nil, List.prefix_nil, List.isEmpty_iff]
    by_cases hempty : wanted = []
    · rw [if_pos hempty, Option.some.injEq]
      constructor
      · rintro rfl
        exact ⟨hempty, fun j hj => absurd hj (Nat.not_lt_zero j)⟩
      · rintro ⟨-, hnone⟩
        exact (Nat.eq_zero_of_not_pos fun hpos => hnone 0 hpos hempty).symm
    · simp [hempty]
  | cons c rest ih =>
    rw [indexOf?]
    by_cases hprefix : wanted.isPrefixOf (c :: rest)
    · rw [if_pos hprefix, Option.some.injEq]
      have hhere := List.isPrefixOf_iff_prefix.mp hprefix
      constructor
      · rintro rfl
        exact ⟨hhere, fun j hj => absurd hj (Nat.not_lt_zero j)⟩
      · rintro ⟨-, hnone⟩
        exact (Nat.eq_zero_of_not_pos fun hpos => hnone 0 hpos hhere).symm
    · rw [if_neg hprefix, Option.map_eq_some_iff]
      rw [List.isPrefixOf_iff_prefix] at hprefix
      constructor
      · rintro ⟨i, hi, rfl⟩
        obtain ⟨hthere, hnone⟩ := ih.mp hi
        refine ⟨hthere, fun j hj => ?_⟩
        cases j with
        | zero => exact hprefix
        | succ j => exact hnone j (Nat.lt_of_succ_lt_succ hj)
      · rintro ⟨hthere, hnone⟩
        cases i with
        | zero => exact absurd hthere hprefix
        | succ i =>
          exact ⟨i, ih.mpr ⟨hthere, fun j hj => hnone (j + 1) (Nat.succ_lt_succ hj)⟩, rfl⟩

/-- Where a text first occurs, the other one goes on with it. -/
theorem prefix_of_indexOf? (h : indexOf? wanted text = some i) : wanted <+: text.drop i :=
  (indexOf?_eq_some_iff.mp h).1

theorem isSome_indexOf?_iff (wanted text : Text) :
    (indexOf? wanted text).isSome = true ↔ wanted <:+: text := by
  constructor
  · intro h
    obtain ⟨i, hi⟩ := Option.isSome_iff_exists.mp h
    exact (prefix_of_indexOf? hi).isInfix.trans (List.drop_suffix i text).isInfix
  · intro h
    induction text with
    | nil =>
      rw [indexOf?, List.infix_nil.mp h]
      rfl
    | cons c rest ih =>
      rw [indexOf?]
      split
      · rfl
      · next hprefix =>
        rcases List.infix_cons_iff.mp h with hstart | hlater
        · exact absurd (List.isPrefixOf_iff_prefix.mpr hstart) hprefix
        · rw [Option.isSome_map]
          exact ih hlater

theorem contains_iff (text wanted : Text) : contains text wanted = true ↔ wanted <:+: text :=
  isSome_indexOf?_iff wanted text

/-- A text that does not start with a given one starts with it no more when it goes on, unless it is
shorter. -/
theorem isPrefixOf_append (hlength : wanted.length ≤ first.length) (second : Text) :
    wanted.isPrefixOf (first ++ second) = wanted.isPrefixOf first := by
  rw [Bool.eq_iff_iff, List.isPrefixOf_iff_prefix, List.isPrefixOf_iff_prefix]
  constructor
  · intro h
    exact List.prefix_of_prefix_length_le h (List.prefix_append first second) hlength
  · intro h
    exact h.trans (List.prefix_append first second)

/-- The first occurrence stays the first when the text goes on. -/
theorem indexOf?_append (h : wanted <:+: first) (second : Text) :
    indexOf? wanted (first ++ second) = indexOf? wanted first := by
  induction first with
  | nil =>
    rw [List.infix_nil.mp h]
    cases second <;> rfl
  | cons c rest ih =>
    have hprefix := isPrefixOf_append h.length_le second
    rw [List.cons_append] at hprefix ⊢
    rw [indexOf?, indexOf?, hprefix]
    split
    · rfl
    · next hnot =>
      rcases List.infix_cons_iff.mp h with hstart | hlater
      · exact absurd (List.isPrefixOf_iff_prefix.mpr hstart) hnot
      · rw [ih hlater]

/-- There is room for the text behind the place where it first occurs. -/
theorem add_length_le_of_indexOf? (h : indexOf? wanted text = some i) :
    i + wanted.length ≤ text.length := by
  induction text generalizing i with
  | nil =>
    rw [indexOf?] at h
    split at h
    · next hempty =>
      obtain rfl := Option.some.inj h
      rw [List.isEmpty_iff.mp hempty]
      exact Nat.le_refl _
    · cases h
  | cons c rest ih =>
    rw [indexOf?] at h
    split at h
    · next hprefix =>
      obtain rfl := Option.some.inj h
      rw [Nat.zero_add]
      exact (List.isPrefixOf_iff_prefix.mp hprefix).length_le
    · obtain ⟨j, hj, rfl⟩ := Option.map_eq_some_iff.mp h
      have hlength := ih hj
      rw [List.length_cons]
      omega

/-- What is cut off at a separator holds no separator, and the text goes on with one. -/
theorem cutAt_spec (separator : Char) (text : Text) :
    separator ∉ (cutAt separator text).1 ∧ ∀ behind, (cutAt separator text).2 = some behind →
      text = (cutAt separator text).1 ++ separator :: behind := by
  induction text with
  | nil => exact ⟨List.not_mem_nil, fun behind h => nomatch h⟩
  | cons c rest ih =>
    obtain ⟨hfront, hrest⟩ := ih
    rw [cutAt]
    split
    · next hc =>
      refine ⟨List.not_mem_nil, fun behind h => ?_⟩
      rw [hc, Option.some.inj h]
      rfl
    · next hc =>
      refine ⟨?_, fun behind h => congrArg (c :: ·) (hrest behind h)⟩
      show separator ∉ c :: (cutAt separator rest).1
      rintro (_ | ⟨_, hmem⟩)
      · exact hc rfl
      · exact hfront hmem

end Text

/-! ## Reading -/

/-- The last character that was passed, when one more stands in front. -/
theorem getLast?_cons_or (c : Char) (text : Text) (last : Option Char) :
    (c :: text).getLast?.or last = text.getLast?.or (some c) := by
  rw [List.getLast?_cons]
  cases text.getLast? <;> rfl

theorem Spot.startsWith_id (wanted text : Text) :
    startsWith id wanted text = wanted.isPrefixOf text := by
  induction wanted generalizing text with
  | nil => rfl
  | cons c wanted ih =>
    cases text with
    | nil => rfl
    | cons d text =>
      rw [startsWith, ih, List.isPrefixOf]
      rfl

/-- The nearest place where a text follows is the one where it first occurs. -/
theorem Spot.before?_id (wanted : Text) (passed : Nat) (last : Option Char) (rest : Text) :
    before? id wanted passed last rest = (Text.indexOf? wanted rest).map fun i =>
      ⟨passed + i, (rest.take i).getLast?.or last, rest.drop i⟩ := by
  induction rest generalizing passed last with
  | nil =>
    rw [before?, startsWith_id, Text.indexOf?]
    cases wanted <;> rfl
  | cons c rest ih =>
    rw [before?, startsWith_id, Text.indexOf?]
    split
    · rfl
    · rw [ih, Option.map_map]
      congr 1
      funext i
      simp only [Function.comp, List.take_succ_cons, List.drop_succ_cons, getLast?_cons_or,
        Nat.add_assoc, Nat.add_comm 1 i]

/-- A given text is read where the rest starts with it. -/
theorem Pattern.run_lit {β : Type} (wanted : Text) (passed : Nat) (last : Option Char) (rest : Text)
    (groups : List Capture) (go : Progress → Option β) :
    run (lit wanted) ⟨⟨passed, last, rest⟩, groups⟩ go =
      if wanted.isPrefixOf rest then
        go ⟨⟨passed + wanted.length, wanted.getLast?.or last, rest.drop wanted.length⟩, groups⟩
      else none := by
  induction wanted generalizing passed last rest with
  | nil => rfl
  | cons c wanted ih =>
    have hseq : lit (c :: wanted) = seq (one (· == c)) (lit wanted) := rfl
    rw [hseq, run]
    cases rest with
    | nil => rfl
    | cons d rest =>
      rw [run, List.isPrefixOf]
      by_cases hd : d = c
      · subst hd
        simp only [beq_self_eq_true, if_true, Bool.true_and, ih, getLast?_cons_or, List.length_cons,
          List.drop_succ_cons, Nat.add_assoc, Nat.add_comm 1]
      · have hc : (c == d) = false := by simpa using fun h => hd h.symm
        simp [hd, hc]

end TemplateLint
