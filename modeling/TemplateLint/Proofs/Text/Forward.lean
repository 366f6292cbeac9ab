import Mathlib.Data.List.TakeWhile
import TemplateLint.Proofs.Text.Cut

/-!
# Taking a text apart from its front

A text that was put together from pieces is taken apart again: blanks around a piece are stripped
(`Text.strip_surrounded`), a cut at a separator gives back what stood in front of it
(`Text.cutAt_append`), and a run of characters that no other one follows is read as a whole
(`Pattern.runMany_longest`).  A search that has a match at its place goes on behind it
(`Pattern.allFrom_of_matchAt?`).
-/
namespace TemplateLint

namespace Text

/-- A text without blanks at its ends. -/
structure Tight (text : Text) : Prop where
  first : ∀ c, text.head? = some c → isBlank c = false
  last : ∀ c, text.getLast? = some c → isBlank c = false

/-- A text without blanks has none at its ends. -/
theorem Tight.of_forall {text : Text} (h : ∀ c ∈ text, isBlank c = false) : Tight text :=
  ⟨fun c hc => h c (List.mem_of_mem_head? hc), fun c hc => h c (List.mem_of_getLast? hc)⟩

theorem dropWhile_of_head {test : Char → Bool} {text : Text}
    (h : ∀ c, text.head? = some c → test c = false) : text.dropWhile test = text := by
  cases text with
  | nil => rfl
  | cons c rest => rw [List.dropWhile_cons_of_neg (by simp [h c rfl])]

section
variable {test : Char → Bool} {read rest : Text}

/-- A run of accepted characters that no other one follows is taken as a whole. -/
theorem takeWhile_append_of_head (hread : ∀ c ∈ read, test c = true)
    (hrest : rest.head?.any test = false) : (read ++ rest).takeWhile test = read := by
  rw [List.takeWhile_append_of_pos hread]
  cases rest with
  | nil => rw [List.takeWhile_nil, List.append_nil]
  | cons c rest =>
    have hc : test c = false := hrest
    rw [List.takeWhile_cons, hc]
    exact List.append_nil read

/-- And it is dropped as a whole. -/
theorem dropWhile_append_of_head (hread : ∀ c ∈ read, test c = true)
    (hrest : rest.head?.any test = false) : (read ++ rest).dropWhile test = rest := by
  rw [List.dropWhile_append_of_pos hread]
  refine dropWhile_of_head fun c hc => ?_
  rwa [hc] at hrest

end

/-- Blanks around a text are stripped. -/
theorem strip_surrounded {before text after : Text} (hbefore : ∀ c ∈ before, isBlank c = true)
    (hafter : ∀ c ∈ after, isBlank c = true) (h : Tight text) :
    strip (before ++ text ++ after) = text := by
  have hright : stripRight (before ++ text ++ after) = if text = [] then [] else before ++ text := by
    rw [stripRight, trimRight, List.reverse_append,
      List.dropWhile_append_of_pos (by simpa using hafter), List.reverse_append]
    split
    · next hempty =>
      subst hempty
      have hall : ∀ c ∈ before.reverse, isBlank c = true := by simpa using hbefore
      rw [List.reverse_nil, List.nil_append, ← List.append_nil before.reverse,
        List.dropWhile_append_of_pos hall]
      rfl
    · next hne =>
      have hhead : ∀ c, (text.reverse ++ before.reverse).head? = some c → isBlank c = false := by
        intro c hc
        rw [List.head?_append_of_ne_nil _ (by simpa using hne), List.head?_reverse] at hc
        exact h.last c hc
      rw [dropWhile_of_head hhead, List.reverse_append, List.reverse_reverse, List.reverse_reverse]
  rw [strip, hright]
  split
  · next hempty =>
    rw [hempty]
    rfl
  · rw [stripLeft, trimLeft, List.dropWhile_append_of_pos hbefore, dropWhile_of_head h.first]

theorem strip_of_tight {text : Text} (h : Tight text) : strip text = text := by
  have hnone : ∀ c ∈ ([] : Text), isBlank c = true := List.forall_mem_nil _
  simpa using strip_surrounded hnone hnone h

/-- What is left of a text has no blanks at its ends. -/
theorem tight_strip (text : Text) : Tight (strip text) := by
  have hfront : ∀ (t : Text) c, (t.dropWhile isBlank).head? = some c → isBlank c = false := by
    intro t c hc
    have hnot := List.head?_dropWhile_not isBlank t
    rwa [hc] at hnot
  refine ⟨hfront _, fun c hc => ?_⟩
  -- stripping the start keeps the last character
  have hsuffix : strip text <:+ stripRight text := List.dropWhile_suffix isBlank
  obtain ⟨before, hbefore⟩ := hsuffix
  have hlast : (stripRight text).getLast? = some c := by
    rw [← hbefore, List.getLast?_append, hc, Option.some_or]
  rw [stripRight, trimRight, List.getLast?_reverse] at hlast
  exact hfront _ c hlast

/-- Blanks at the end of a text are stripped as far as the last character that is none. -/
theorem stripRight_append (front back : Text) : stripRight (front ++ back) =
    if stripRight back = [] then stripRight front else front ++ stripRight back := by
  simp only [stripRight, trimRight, List.reverse_append, List.dropWhile_append, List.isEmpty_iff,
    List.reverse_eq_nil_iff]
  split
  · rfl
  · rw [List.reverse_append, List.reverse_reverse]

theorem stripRight_of_last {text : Text} (h : ∀ c, text.getLast? = some c → isBlank c = false) :
    stripRight text = text := by
  have hreverse : ∀ c, text.reverse.head? = some c → isBlank c = false := by
    simpa only [List.head?_reverse] using h
  rw [stripRight, trimRight, dropWhile_of_head hreverse, List.reverse_reverse]

theorem stripRight_cons {c : Char} (hc : isBlank c = false) (text : Text) :
    stripRight (c :: text) = c :: stripRight text := by
  have hsingle : stripRight [c] = [c] :=
    stripRight_of_last fun d hd => Option.some.inj hd ▸ hc
  rw [← List.singleton_append, stripRight_append, hsingle]
  split
  · next hnone => rw [hnone]
  · rfl

theorem stripRight_eq_nil_iff {text : Text} :
    stripRight text = [] ↔ ∀ c ∈ text, isBlank c = true := by
  rw [stripRight, trimRight, List.reverse_eq_nil_iff, List.dropWhile_eq_nil_iff]
  simp only [List.mem_reverse]

theorem stripRight_prefix_self (text : Text) : stripRight text <+: text := by
  have hsuffix := List.reverse_prefix.mpr (List.dropWhile_suffix (p := isBlank) (l := text.reverse))
  rwa [List.reverse_reverse] at hsuffix

/-- What is stripped at the end are blanks. -/
theorem exists_stripRight_append (text : Text) :
    ∃ cut, text = stripRight text ++ cut ∧ ∀ c ∈ cut, isBlank c = true := by
  refine ⟨(text.reverse.takeWhile isBlank).reverse, ?_, fun c hc => ?_⟩
  · rw [stripRight, trimRight, ← List.reverse_append, List.takeWhile_append_dropWhile,
      List.reverse_reverse]
  · exact List.mem_takeWhile_imp (List.mem_reverse.mp hc)

/-- What is stripped at the start are blanks, as far as the first character that is none. -/
theorem exists_stripLeft_append (text : Text) : ∃ cut, text = cut ++ stripLeft text ∧
    (∀ c ∈ cut, isBlank c = true) ∧ ∀ c, (stripLeft text).head? = some c → isBlank c = false := by
  refine ⟨text.takeWhile isBlank, (List.takeWhile_append_dropWhile).symm,
    fun c hc => List.mem_takeWhile_imp hc, fun c hc => ?_⟩
  have hnot := List.head?_dropWhile_not isBlank text
  rwa [← trimLeft, ← stripLeft, hc] at hnot

/-- Stripping leaves out blanks only. -/
theorem exists_strip_append (text : Text) : ∃ before after,
    text = before ++ strip text ++ after ∧ (∀ c ∈ before, isBlank c = true) ∧
      ∀ c ∈ after, isBlank c = true := by
  obtain ⟨after, hafter, hblank⟩ := exists_stripRight_append text
  obtain ⟨before, hbefore, hfront, -⟩ := exists_stripLeft_append (stripRight text)
  rw [hbefore] at hafter
  exact ⟨before, after, hafter, hfront, hblank⟩

/-- A text that starts with no blank is stripped at its end only. -/
theorem strip_of_first {text : Text} (h : ∀ c, text.head? = some c → isBlank c = false) :
    strip text = stripRight text := by
  rw [strip, stripLeft, trimLeft, dropWhile_of_head]
  intro c hc
  obtain ⟨cut, htext, -⟩ := exists_stripRight_append text
  refine h c ?_
  rw [htext, List.head?_append, hc, Option.some_or]

theorem strip_infix_self (text : Text) : strip text <:+: text :=
  (List.dropWhile_suffix isBlank).isInfix.trans (stripRight_prefix_self text).isInfix

theorem cutAt_of_not_mem {separator : Char} {text : Text} (h : separator ∉ text) :
    cutAt separator text = (text, none) := by
  induction text with
  | nil => rfl
  | cons c rest ih =>
    rw [List.mem_cons, not_or] at h
    rw [cutAt, if_neg (Ne.symm h.1), ih h.2]

/-- A cut passes over a text without a separator. -/
theorem cutAt_append_of_not_mem {separator : Char} {front : Text} (h : separator ∉ front)
    (back : Text) : cutAt separator (front ++ back) =
      (front ++ (cutAt separator back).1, (cutAt separator back).2) := by
  induction front with
  | nil => rfl
  | cons c front ih =>
    rw [List.mem_cons, not_or] at h
    rw [List.cons_append, cutAt, if_neg (Ne.symm h.1), ih h.2, List.cons_append]

/-- A cut at a separator gives back what stands in front of it and what stands behind it. -/
theorem cutAt_append {separator : Char} {front : Text} (h : separator ∉ front) (behind : Text) :
    cutAt separator (front ++ separator :: behind) = (front, some behind) := by
  rw [cutAt_append_of_not_mem h, cutAt, if_pos rfl, List.append_nil]

/-- A cut goes through where the separator occurs. -/
theorem cutAt_eq_none_iff {separator : Char} {text : Text} :
    (cutAt separator text).2 = none ↔ separator ∉ text := by
  refine ⟨fun hnone hmem => ?_, fun hmem => by rw [cutAt_of_not_mem hmem]⟩
  obtain ⟨front, behind, rfl, hfront⟩ := List.eq_append_cons_of_mem hmem
  rw [cutAt_append hfront] at hnone
  cases hnone

end Text

namespace Pattern

/-- A run of accepted characters that no accepted one follows is read as a whole, if it is possible to
go on behind it. -/
theorem runMany_longest {α : Type} {accepts : Char → Bool} {go : Spot → Option α} {least : Nat}
    {passed : Nat} {last : Option Char} {read rest : Text}
    (hread : ∀ c ∈ read, accepts c = true) (hrest : rest.head?.any accepts = false)
    (hleast : least ≤ read.length) {a : α}
    (hgo : go ⟨passed + read.length, read.getLast?.or last, rest⟩ = some a) :
    runMany accepts go least passed last (read ++ rest) = some a := by
  induction read generalizing least passed last with
  | nil =>
    obtain rfl : least = 0 := Nat.le_zero.mp hleast
    cases rest with
    | nil => rwa [List.append_nil, runMany, if_pos rfl]
    | cons c rest =>
      have hc : accepts c = false := hrest
      rw [List.nil_append, runMany, hc]
      exact hgo
  | cons c read ih =>
    obtain ⟨hc, hread⟩ := List.forall_mem_cons.mp hread
    rw [List.length_cons] at hleast
    rw [List.length_cons, getLast?_cons_or, Nat.add_comm read.length, ← Nat.add_assoc] at hgo
    rw [List.cons_append, runMany, if_pos hc, ih hread (by omega) hgo]

/-- Where no blank follows, no blanks are read. -/
theorem run_blanks {α : Type} {passed : Nat} {last : Option Char} {rest : Text}
    (h : rest.head?.any isBlank = false) (groups : List Capture) (go : Progress → Option α) :
    run blanks ⟨⟨passed, last, rest⟩, groups⟩ go = go ⟨⟨passed, last, rest⟩, groups⟩ := by
  rw [run_eq_findSome?, blanks, ways, runSpots_of_refused h]
  exact List.findSome?_singleton

/-- A given character is read where it comes next. -/
theorem run_lit_cons {α : Type} (c : Char) (passed : Nat) (last : Option Char) (rest : Text)
    (groups : List Capture) (go : Progress → Option α) :
    run (lit [c]) ⟨⟨passed, last, c :: rest⟩, groups⟩ go =
      go ⟨⟨passed + 1, some c, rest⟩, groups⟩ := by
  show (if c == c then _ else _) = _
  rw [if_pos (beq_self_eq_true c)]
  rfl

/-- The first of two patterns is read where it lets everything behind it succeed. -/
theorem run_alt_left {α : Type} {first second : Pattern} {p : Progress} {go : Progress → Option α}
    {a : α} (h : run first p go = some a) : run (alt first second) p go = some a := by
  rw [run, h]

variable {pattern : Pattern} {resume passed : Nat} {last : Option Char}

/-- Nothing is found before the place from which a search resumes. -/
theorem allFrom_skip {skipped : Text} (hresume : passed + skipped.length ≤ resume) (rest : Text) :
    pattern.allFrom resume passed last (skipped ++ rest) =
      pattern.allFrom resume (passed + skipped.length) (skipped.getLast?.or last) rest := by
  induction skipped generalizing passed last with
  | nil => rfl
  | cons c skipped ih =>
    rw [List.length_cons] at hresume
    have hhere : ¬ resume ≤ passed := by omega
    have hlater := @ih (passed + 1) (some c) (by omega)
    rw [List.cons_append, allFrom, if_neg hhere, getLast?_cons_or, List.length_cons,
      Nat.add_comm skipped.length, ← Nat.add_assoc]
    exact hlater

/-- A character at which the pattern cannot be read is passed over. -/
theorem allFrom_cons_of_startsNot {c : Char} (hstart : pattern.startsNot (some c) = true)
    (rest : Text) : pattern.allFrom resume passed last (c :: rest) =
      pattern.allFrom resume (passed + 1) (some c) rest := by
  have hnone : pattern.matchAt? ⟨passed, last, c :: rest⟩ = none := by
    rw [matchAt?, run_eq_findSome?, ways_eq_nil (p := ⟨⟨passed, last, c :: rest⟩, []⟩) hstart]
    rfl
  rw [allFrom, hnone]
  split
  · next h =>
    split at h <;> cases h
  · rfl

/-- A search with a match at its place goes on behind the match. -/
theorem allFrom_of_matchAt? {read rest : Text} {m : Match}
    (hmatch : pattern.matchAt? ⟨passed, last, read ++ rest⟩ = some m)
    (hstop : m.stop = passed + read.length) (hread : read ≠ []) (hresume : resume ≤ passed) :
    pattern.allFrom resume passed last (read ++ rest) =
      m :: pattern.allFrom (passed + read.length) (passed + read.length) (read.getLast?.or last)
        rest := by
  cases read with
  | nil => exact absurd rfl hread
  | cons c read =>
    have hend : max m.stop (passed + 1) = passed + (c :: read).length := by
      rw [hstop, List.length_cons]
      omega
    rw [List.cons_append] at hmatch ⊢
    rw [allFrom, if_pos hresume, hmatch]
    show m :: pattern.allFrom (max m.stop (passed + 1)) _ _ _ = _
    have hplace : passed + 1 + read.length = passed + (c :: read).length := by
      rw [List.length_cons]
      omega
    rw [hend, allFrom_skip (Nat.le_of_eq hplace), hplace, getLast?_cons_or]

end Pattern
end TemplateLint
