import Mathlib.Data.Set.Defs
import TemplateLint.Rule.Structure

/-!
# Pairing only some names

An end finds its partner by name, so ends of other names may be dropped before the pairing or behind
it.  The depth of a block is the one thing that changes: it counts the constructs of every name that
were open.  The loops of a document are paired alone and the balance of its blocks is checked on all
tokens; both come to the same loops (`ofTokens_restrictedTo`).
-/
namespace TemplateLint

/-- A block without its depth: its name and its ends. -/
def Block.ends (b : Block) : Text × BlockToken × BlockToken := (b.name, b.opener, b.closer)

/-! ## Sorting -/

section Sorting

variable {α : Type} {le : α → α → Bool}

/-- A list is cut in only one way into elements that fail a test and elements that pass it. -/
private theorem append_inj_of_test (test : α → Bool) {l₁ l₂ m₁ m₂ : List α}
    (h : l₁ ++ l₂ = m₁ ++ m₂) (hl₁ : ∀ b ∈ l₁, test b = false) (hl₂ : ∀ b ∈ l₂, test b = true)
    (hm₁ : ∀ b ∈ m₁, test b = false) (hm₂ : ∀ b ∈ m₂, test b = true) : l₁ = m₁ ∧ l₂ = m₂ := by
  have hsplit : ∀ l r : List α, (∀ b ∈ l, test b = false) → (∀ b ∈ r, test b = true) →
      (l ++ r).filter test = r ∧ (l ++ r).filter (fun b => !test b) = l := by
    intro l r hl hr
    have hl' : l.filter test = [] := List.filter_eq_nil_iff.mpr (by simpa using hl)
    have hr' : r.filter (fun b => !test b) = [] := List.filter_eq_nil_iff.mpr (by simpa using hr)
    rw [List.filter_append, List.filter_append, hl', hr', List.filter_eq_self.mpr hr,
      List.filter_eq_self.mpr (by simpa using hl), List.append_nil]
    exact ⟨rfl, rfl⟩
  obtain ⟨hpass, hfail⟩ := hsplit l₁ l₂ hl₁ hl₂
  obtain ⟨hpass', hfail'⟩ := hsplit m₁ m₂ hm₁ hm₂
  rw [h] at hpass hfail
  exact ⟨hfail.symm.trans hfail', hpass.symm.trans hpass'⟩

/-- A stable sort may come before or behind a filter. -/
theorem filter_mergeSort (htrans : ∀ a b c, le a b → le b c → le a c)
    (htotal : ∀ a b, le a b || le b a) (keep : α → Bool) (l : List α) :
    (l.mergeSort le).filter keep = (l.filter keep).mergeSort le := by
  induction l with
  | nil => simp
  | cons a l ih =>
    obtain ⟨l₁, l₂, hcons, htail, hbefore⟩ := List.mergeSort_cons htrans htotal a l
    rw [htail, List.filter_append] at ih
    rw [hcons, List.filter_append]
    cases hkeep : keep a with
    | false =>
      rw [List.filter_cons_of_neg (by simp [hkeep]), List.filter_cons_of_neg (by simp [hkeep]), ih]
    | true =>
      rw [List.filter_cons_of_pos hkeep, List.filter_cons_of_pos hkeep]
      obtain ⟨m₁, m₂, hcons', htail', hbefore'⟩ :=
        List.mergeSort_cons htrans htotal a (l.filter keep)
      -- the element goes behind exactly those that are smaller, kept or not
      have hbehind : ∀ b ∈ l₂, le a b = true := by
        have hsorted := List.pairwise_mergeSort htrans htotal (a :: l)
        rw [hcons] at hsorted
        exact (List.pairwise_cons.mp (List.pairwise_append.mp hsorted).2.1).1
      have hbehind' : ∀ b ∈ m₂, le a b = true := by
        have hsorted := List.pairwise_mergeSort htrans htotal (a :: l.filter keep)
        rw [hcons'] at hsorted
        exact (List.pairwise_cons.mp (List.pairwise_append.mp hsorted).2.1).1
      rw [htail'] at ih
      obtain ⟨h₁, h₂⟩ := append_inj_of_test (le a) ih
        (fun b hb => by simpa using hbefore b (List.mem_filter.mp hb).1)
        (fun b hb => hbehind b (List.mem_filter.mp hb).1)
        (fun b hb => by simpa using hbefore' b hb) hbehind'
      rw [hcons', h₁, h₂]

end Sorting

namespace Pairing

variable (names : Set Text) [DecidablePred (· ∈ names)]

/-- One pairing is another one with only the ends whose name lies in a set. -/
structure RestrictedTo (p q : Pairing) : Prop where
  blocks : q.blocks.map Block.ends = (p.blocks.filter (·.name ∈ names)).map Block.ends
  unmatched : q.unmatched = p.unmatched.filter (·.name ∈ names)
  unclosed : q.unclosed = p.unclosed.filter (·.name ∈ names)

variable {names}

/-! ## The stack -/

/-- The topmost opener of a name is found below openers of other names. -/
theorem take?_append_cons {name : Text} {above below : List BlockToken} {opener : BlockToken}
    (habove : ∀ t ∈ above, t.name ≠ name) (hname : opener.name = name) :
    take? name (above ++ opener :: below) = some (opener, above ++ below, below.length) := by
  induction above with
  | nil => simp [take?, hname]
  | cons top above ih =>
    have htop : top.name ≠ name := habove top List.mem_cons_self
    have hrest := ih fun t ht => habove t (List.mem_cons_of_mem top ht)
    simp [take?, htop, hrest]

/-- Dropping the openers of other names leaves the opener that is taken. -/
theorem take?_filter {name : Text} {stack rest : List BlockToken} {opener : BlockToken}
    {depth : Nat} (hname : name ∈ names) (h : take? name stack = some (opener, rest, depth)) :
    ∃ depth', take? name (stack.filter (·.name ∈ names)) =
      some (opener, rest.filter (·.name ∈ names), depth') := by
  obtain ⟨above, below, rfl, rfl, -, ho, habove⟩ := take?_eq_some h
  refine ⟨(below.filter (·.name ∈ names)).length, ?_⟩
  rw [List.filter_append, List.filter_append, List.filter_cons_of_pos (by simpa [ho] using hname)]
  exact take?_append_cons (fun t ht => habove t (List.mem_filter.mp ht).1) ho

theorem take?_filter_none {name : Text} {stack : List BlockToken} (h : take? name stack = none) :
    take? name (stack.filter (·.name ∈ names)) = none := by
  rw [take?_eq_none_iff] at h ⊢
  exact fun t ht => h t (List.mem_filter.mp ht).1

/-- Taking an opener of another name changes nothing that is kept. -/
theorem filter_take? {name : Text} {stack rest : List BlockToken} {opener : BlockToken}
    {depth : Nat} (hname : name ∉ names) (h : take? name stack = some (opener, rest, depth)) :
    rest.filter (·.name ∈ names) = stack.filter (·.name ∈ names) := by
  obtain ⟨above, below, rfl, rfl, -, ho, -⟩ := take?_eq_some h
  rw [List.filter_append, List.filter_append, List.filter_cons_of_neg (by simpa [ho] using hname)]

/-! ## The walk -/

/-- The walk over the kept tokens, from the kept part of a stack on, finds the kept part. -/
theorem walk_restrictedTo (tokens stack : List BlockToken) :
    RestrictedTo names (walk tokens stack)
      (walk (tokens.filter (·.name ∈ names)) (stack.filter (·.name ∈ names))) := by
  -- each token does the same to both stacks, or nothing to the kept part
  induction tokens generalizing stack with
  | nil => exact ⟨rfl, rfl, by simp [walk]⟩
  | cons t rest ih =>
    by_cases hkeep : t.name ∈ names
    · rw [List.filter_cons_of_pos (by simpa using hkeep)]
      cases hkind : t.isCloser with
      | false =>
        have h := ih (t :: stack)
        rw [List.filter_cons_of_pos (by simpa using hkeep)] at h
        rw [walk_opener hkind, walk_opener hkind]
        exact h
      | true =>
        cases htake : take? t.name stack with
        | none =>
          have h := ih stack
          rw [walk_lone hkind htake, walk_lone hkind (take?_filter_none htake)]
          refine ⟨h.blocks, ?_, h.unclosed⟩
          rw [List.filter_cons_of_pos (by simpa using hkeep), h.unmatched]
        | some found =>
          obtain ⟨o, below, depth⟩ := found
          obtain ⟨depth', htake'⟩ := take?_filter hkeep htake
          obtain ⟨_, _, _, _, _, ho, _⟩ := take?_eq_some htake
          have h := ih below
          rw [walk_matched hkind htake, walk_matched hkind htake']
          refine ⟨?_, h.unmatched, h.unclosed⟩
          rw [List.filter_cons_of_pos (by simpa [Block.name, ho] using hkeep), List.map_cons,
            List.map_cons, h.blocks]
          rfl
    · rw [List.filter_cons_of_neg (by simpa using hkeep)]
      cases hkind : t.isCloser with
      | false =>
        have h := ih (t :: stack)
        rw [List.filter_cons_of_neg (by simpa using hkeep)] at h
        rw [walk_opener hkind]
        exact h
      | true =>
        cases htake : take? t.name stack with
        | none =>
          have h := ih stack
          rw [walk_lone hkind htake]
          refine ⟨h.blocks, ?_, h.unclosed⟩
          rw [List.filter_cons_of_neg (by simpa using hkeep), h.unmatched]
        | some found =>
          obtain ⟨o, below, depth⟩ := found
          obtain ⟨_, _, _, _, _, ho, _⟩ := take?_eq_some htake
          have h := ih below
          rw [filter_take? hkeep htake] at h
          rw [walk_matched hkind htake]
          refine ⟨?_, h.unmatched, h.unclosed⟩
          rw [List.filter_cons_of_neg (by simpa [Block.name, ho] using hkeep), h.blocks]

/-- The order in which constructs start, for constructs without their depth. -/
private theorem map_ends_mergeSort (blocks : List Block) :
    (blocks.mergeSort fun a b => a.start ≤ b.start).map Block.ends =
      (blocks.map Block.ends).mergeSort fun a b => a.2.1.start ≤ b.2.1.start :=
  List.map_mergeSort fun _ _ _ _ => rfl

/-- **Pairing commutes with the restriction to a set of names.**  So the loops of a document are the
loops among the blocks whose balance is checked. -/
theorem ofTokens_restrictedTo :
    (∀ (names : Set Text) [DecidablePred (· ∈ names)] (tokens : List BlockToken),
      RestrictedTo names (ofTokens tokens) (ofTokens (tokens.filter (·.name ∈ names)))) ∧
    ∀ ctx : RuleContext, (loopsOf ctx.dialect ctx.text).map Block.ends =
      ((StructureRules.pairingOf ctx).blocks.filter
        (·.name ∈ loopNames ctx.dialect)).map Block.ends := by
  have hrestrict : ∀ (names : Set Text) [DecidablePred (· ∈ names)] (tokens : List BlockToken),
      RestrictedTo names (ofTokens tokens) (ofTokens (tokens.filter (·.name ∈ names))) := by
    intro names _ tokens
    have h : RestrictedTo names _ (walk _ []) := walk_restrictedTo tokens []
    refine ⟨?_, h.unmatched, h.unclosed⟩
    show List.map Block.ends (List.mergeSort _ _) =
      List.map Block.ends (List.filter _ (List.mergeSort _ _))
    rw [filter_mergeSort (fun a b c hab hbc => by simp at hab hbc ⊢; omega)
      (fun a b => by simp; omega), map_ends_mergeSort, map_ends_mergeSort]
    exact congrArg (List.mergeSort · _) h.blocks
  refine ⟨hrestrict, fun ctx => ?_⟩
  -- the loops are chosen by a test on lists, which decides the same set
  let _ : DecidablePred (· ∈ {name : Text | name ∈ loopNames ctx.dialect}) :=
    fun name => inferInstanceAs (Decidable (name ∈ loopNames ctx.dialect))
  have h := hrestrict {name | name ∈ loopNames ctx.dialect} (BlockToken.scan ctx.dialect ctx.text)
  exact h.blocks

end Pairing
end TemplateLint
