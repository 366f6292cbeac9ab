import TemplateLint.Block.Token

/-!
# Pairing

A closer takes the opener of its name that came last.  Only names count, so constructs of different
names may interleave.
-/
namespace TemplateLint

/-- A construct with both its ends; `depth` is the number of constructs that were open below it when
it closed. -/
structure Block where
  opener : BlockToken
  closer : BlockToken
  depth : Nat
deriving DecidableEq

namespace Block

/-- The name of a construct. -/
def name (b : Block) : Text := b.opener.name

/-- The offset at which a construct starts. -/
def start (b : Block) : Nat := b.opener.start

/-- The offset behind a construct. -/
def stop (b : Block) : Nat := b.closer.stop

/-- The line on which a construct starts. -/
def line (b : Block) : Nat := b.opener.position.line

/-- The text between the ends of a construct. -/
def body (text : Text) (b : Block) : Text := Text.slice text b.opener.stop b.closer.start

/-- A construct lies inside another. -/
def contains (b other : Block) : Bool := b.start < other.start && other.stop ≤ b.stop

end Block

/-- The constructs of a document, and the ends that stayed alone. -/
structure Pairing where
  blocks : List Block
  /-- Closers without an opener of their name. -/
  unmatched : List BlockToken
  /-- Openers that are never closed. -/
  unclosed : List BlockToken
deriving DecidableEq

namespace Pairing

/-- Takes the topmost opener of a name out of a stack, with what lies below it. -/
def take? (name : Text) : List BlockToken → Option (BlockToken × List BlockToken × Nat)
  | [] => none
  | opener :: below =>
    if opener.name = name then some (opener, below, below.length)
    else
      (take? name below).map fun found => (found.1, opener :: found.2.1, found.2.2)

theorem take?_eq_none_iff (name : Text) (stack : List BlockToken) :
    take? name stack = none ↔ ∀ t ∈ stack, t.name ≠ name := by
  induction stack with
  | nil => simp [take?]
  | cons opener below ih => by_cases h : opener.name = name <;> simp [take?, h, ih]

/-- The opener that is taken has the name and lies above every other one that has it. -/
theorem take?_eq_some {name : Text} {stack rest : List BlockToken} {opener : BlockToken}
    {depth : Nat} (h : take? name stack = some (opener, rest, depth)) :
    ∃ above below, stack = above ++ opener :: below ∧ rest = above ++ below ∧
      depth = below.length ∧ opener.name = name ∧ ∀ t ∈ above, t.name ≠ name := by
  induction stack generalizing rest with
  | nil => cases h
  | cons top below ih =>
    by_cases hname : top.name = name
    · simp only [take?, hname, if_true, Option.some.injEq, Prod.mk.injEq] at h
      obtain ⟨rfl, rfl, rfl⟩ := h
      exact ⟨[], below, rfl, rfl, rfl, hname, by simp⟩
    · simp only [take?, hname, if_false, Option.map_eq_some_iff, Prod.mk.injEq] at h
      obtain ⟨⟨o, r, d⟩, hfound, rfl, rfl, rfl⟩ := h
      obtain ⟨above, below', rfl, rfl, hdepth, ho, habove⟩ := ih hfound
      refine ⟨top :: above, below', rfl, rfl, hdepth, ho, ?_⟩
      intro t ht
      rcases List.mem_cons.mp ht with rfl | ht
      · exact hname
      · exact habove t ht

/-- Walks the tokens with the stack of open constructs, the latest on top. -/
def walk : List BlockToken → List BlockToken → Pairing
  | [], stack => ⟨[], [], stack.reverse⟩
  | token :: rest, stack =>
    if token.isCloser then
      match take? token.name stack with
      | some (opener, stack, depth) =>
        let later := walk rest stack
        { later with blocks := ⟨opener, token, depth⟩ :: later.blocks }
      | none =>
        let later := walk rest stack
        { later with unmatched := token :: later.unmatched }
    else walk rest (token :: stack)

section Walk

variable {token opener : BlockToken} {rest stack below : List BlockToken} {depth : Nat}

/-- An opener is put on the stack. -/
theorem walk_opener (hopens : token.isCloser = false) :
    walk (token :: rest) stack = walk rest (token :: stack) := by
  simp [walk, hopens]

/-- A closer whose name is not on the stack stays alone. -/
theorem walk_lone (hcloses : token.isCloser = true) (hnone : take? token.name stack = none) :
    walk (token :: rest) stack =
      { walk rest stack with unmatched := token :: (walk rest stack).unmatched } := by
  simp [walk, hcloses, hnone]

/-- A closer makes a construct with the opener that it takes. -/
theorem walk_matched (hcloses : token.isCloser = true)
    (htake : take? token.name stack = some (opener, below, depth)) :
    walk (token :: rest) stack =
      { walk rest below with blocks := ⟨opener, token, depth⟩ :: (walk rest below).blocks } := by
  simp [walk, hcloses, htake]

end Walk

/-- The pairing of some tokens, with the constructs in the order in which they start. -/
def ofTokens (tokens : List BlockToken) : Pairing :=
  let found := walk tokens []
  { found with blocks := found.blocks.mergeSort fun a b => a.start ≤ b.start }

end Pairing

end TemplateLint
