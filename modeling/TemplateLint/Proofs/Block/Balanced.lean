/-!
# Balanced words

The ends of blocks make a word in which an opener is `false` and a closer is `true`.  The grammar
says which words are balanced; a counter of the openers that are still open decides it
(`balanced_iff`).  A closer behind a balanced word, and an opener in front of one, have no partner
(`Balanced.not_append_closer`, `Balanced.not_append_opener`), and balanced words do not interleave
(`Balanced.not_interleaved`).
-/
namespace TemplateLint

/-- A balanced word: nothing, or a balanced word between an opener and its closer, with a balanced
word behind. -/
inductive Balanced : List Bool → Prop
  | nil : Balanced []
  | nest {inner rest : List Bool} (hinner : Balanced inner) (hrest : Balanced rest) :
      Balanced (false :: inner ++ true :: rest)

/-- The number of open openers behind a word, from the number in front of it; none if a closer has
no opener. -/
def openBehind : Nat → List Bool → Option Nat
  | depth, [] => some depth
  | depth, false :: word => openBehind (depth + 1) word
  | 0, true :: _ => none
  | depth + 1, true :: word => openBehind depth word

theorem openBehind_append (depth : Nat) (u v : List Bool) :
    openBehind depth (u ++ v) = (openBehind depth u).bind fun d => openBehind d v := by
  induction u generalizing depth with
  | nil => rfl
  | cons b u ih =>
    cases b with
    | false => exact ih (depth + 1)
    | true =>
      cases depth with
      | zero => rfl
      | succ depth => exact ih depth

/-- What was open below stays open. -/
theorem openBehind_add {depth depth' : Nat} {word : List Bool} (h : openBehind depth word = some depth')
    (below : Nat) : openBehind (depth + below) word = some (depth' + below) := by
  induction word generalizing depth with
  | nil =>
    obtain rfl := Option.some.inj h
    rfl
  | cons b word ih =>
    cases b with
    | false =>
      have hlater : openBehind (depth + 1 + below) word = some (depth' + below) := ih h
      rwa [Nat.add_right_comm] at hlater
    | true =>
      cases depth with
      | zero => cases h
      | succ depth =>
        have hlater : openBehind (depth + below) word = some (depth' + below) := ih h
        rwa [Nat.add_right_comm]

namespace Balanced

/-- A balanced word leaves open what was open. -/
theorem openBehind_eq {word : List Bool} (h : Balanced word) (depth : Nat) :
    openBehind depth word = some depth := by
  induction h generalizing depth with
  | nil => rfl
  | @nest inner rest _ _ ihinner ihrest =>
    show openBehind (depth + 1) (inner ++ true :: rest) = some depth
    rw [openBehind_append, ihinner (depth + 1)]
    exact ihrest depth

theorem append {u v : List Bool} (hu : Balanced u) (hv : Balanced v) : Balanced (u ++ v) := by
  induction hu with
  | nil => exact hv
  | @nest inner rest hinner _ _ ihrest =>
    have h := nest hinner ihrest
    simpa using h

/-- A closer behind a balanced word has no opener in it. -/
theorem not_append_closer {u : List Bool} (hu : Balanced u) (v : List Bool) :
    ¬ Balanced (u ++ true :: v) := by
  intro h
  have hnone : openBehind 0 (u ++ true :: v) = none := by
    rw [openBehind_append, hu.openBehind_eq 0]
    rfl
  rw [h.openBehind_eq 0] at hnone
  cases hnone

/-- An opener in front of a balanced word has no closer in it. -/
theorem not_append_opener (u : List Bool) {v : List Bool} (hv : Balanced v) :
    ¬ Balanced (u ++ false :: v) := by
  intro h
  have hzero := h.openBehind_eq 0
  rw [openBehind_append] at hzero
  cases hu : openBehind 0 u with
  | none => rw [hu] at hzero; cases hzero
  | some d =>
    rw [hu] at hzero
    have hd : openBehind (d + 1) v = some 0 := hzero
    rw [hv.openBehind_eq (d + 1)] at hd
    cases hd

/-- Two constructs do not interleave: no word stands behind an opener that it closes and in front of a
closer that it does not open. -/
theorem not_interleaved {u v w : List Bool} (h : Balanced (u ++ false :: v)) :
    ¬ Balanced (v ++ true :: w) := by
  intro h'
  have hopener := h.openBehind_eq 0
  have hcloser := h'.openBehind_eq 0
  rw [openBehind_append] at hopener hcloser
  obtain ⟨d, -, hv⟩ := Option.bind_eq_some_iff.mp hopener
  obtain ⟨d', hv', -⟩ := Option.bind_eq_some_iff.mp hcloser
  -- the word between closes the opener in front of it, although it closes no more than it opens
  have hadd := openBehind_add hv' (d + 1)
  have hclosed : openBehind (0 + (d + 1)) v = some 0 := by
    rw [Nat.zero_add]
    exact hv
  rw [hclosed] at hadd
  have hzero := Option.some.inj hadd
  omega

/-- A pair of ends that touch may be put anywhere. -/
theorem insert_pair {u v : List Bool} (h : Balanced (u ++ v)) :
    Balanced (u ++ false :: true :: v) := by
  generalize hw : u ++ v = word at h
  induction h generalizing u v with
  | nil =>
    obtain ⟨rfl, rfl⟩ := List.append_eq_nil_iff.mp hw
    exact nest nil nil
  | @nest inner rest hinner hrest ihinner ihrest =>
    cases u with
    | nil =>
      have hv : v = false :: inner ++ true :: rest := hw
      subst hv
      exact nest nil (nest hinner hrest)
    | cons b u =>
      obtain rfl : b = false := (List.cons.inj hw).1
      have htail : u ++ v = inner ++ true :: rest := (List.cons.inj hw).2
      rcases List.append_eq_append_iff.mp htail with ⟨w, hin, hv⟩ | ⟨w, hu, hv⟩
      · -- the pair falls into the inner word
        subst hv
        have hnest := nest (ihinner hin.symm) hrest
        simpa using hnest
      · -- the pair falls on the closer or behind it
        subst hu
        cases w with
        | nil =>
          obtain rfl : true :: rest = v := hv
          have hnest := nest (hinner.append (nest nil nil)) hrest
          simpa using hnest
        | cons c w =>
          obtain rfl : true = c := (List.cons.inj hv).1
          have hnest := nest hinner (ihrest (List.cons.inj hv).2.symm)
          simpa using hnest

end Balanced

theorem balanced_of_openBehind {depth : Nat} {word : List Bool}
    (h : openBehind depth word = some 0) : Balanced (List.replicate depth false ++ word) := by
  induction word generalizing depth with
  | nil =>
    obtain rfl : depth = 0 := by simpa [openBehind] using h
    exact .nil
  | cons b word ih =>
    cases b with
    | false =>
      have hb : Balanced (List.replicate (depth + 1) false ++ word) := ih h
      rwa [List.replicate_succ', List.append_assoc] at hb
    | true =>
      cases depth with
      | zero => cases h
      | succ depth =>
        -- the closer ends the last opener in front, and without the two the rest is balanced
        have hb : Balanced (List.replicate depth false ++ word) := ih h
        have hpair := hb.insert_pair
        rwa [List.replicate_succ', List.append_assoc]

/-- The counter decides which words are balanced. -/
theorem balanced_iff (word : List Bool) : openBehind 0 word = some 0 ↔ Balanced word :=
  ⟨fun h => balanced_of_openBehind h, fun h => h.openBehind_eq 0⟩

instance (word : List Bool) : Decidable (Balanced word) :=
  decidable_of_iff _ (balanced_iff word)

end TemplateLint
