import Mathlib.Data.List.Basic
import TemplateLint.Block.Pairing

/-!
# Walks in a row

A walk may stop anywhere and go on with the constructs that are still open (`walk_append`), and only
the names of the tokens and whether they close count for it (`walk_map`).  Every opener ends up in a
construct or stays alone, and so does every closer; so the walk keeps the balance between the two
(`walk_count`), for the tokens of any set of names.
-/
namespace TemplateLint
namespace Pairing

variable {tokens first second stack : List BlockToken}

/-- No end of a construct stays alone. -/
structure Complete (p : Pairing) : Prop where
  unmatched : p.unmatched = []
  unclosed : p.unclosed = []

theorem complete_ofTokens_iff (tokens : List BlockToken) :
    (ofTokens tokens).Complete ↔ (walk tokens []).Complete :=
  ⟨fun h => ⟨h.unmatched, h.unclosed⟩, fun h => ⟨h.unmatched, h.unclosed⟩⟩

/-! ## One walk after another -/

/-- The second walk starts with what the first one has left open. -/
theorem walk_append (first second stack : List BlockToken) :
    walk (first ++ second) stack =
      { blocks :=
          (walk first stack).blocks ++ (walk second (walk first stack).unclosed.reverse).blocks
        unmatched :=
          (walk first stack).unmatched ++
            (walk second (walk first stack).unclosed.reverse).unmatched
        unclosed := (walk second (walk first stack).unclosed.reverse).unclosed } := by
  induction first generalizing stack with
  | nil =>
    rw [List.nil_append, walk, List.reverse_reverse]
    rfl
  | cons token first ih =>
    rw [List.cons_append]
    cases hkind : token.isCloser with
    | false => rw [walk_opener hkind, walk_opener hkind, ih]
    | true =>
      cases htake : take? token.name stack with
      | none =>
        rw [walk_lone hkind htake, walk_lone hkind htake, ih]
        rfl
      | some found =>
        obtain ⟨opener, below, depth⟩ := found
        rw [walk_matched hkind htake, walk_matched hkind htake, ih]
        rfl

/-- Behind complete constructs the walk starts anew. -/
theorem complete_append_iff (h : (walk first []).Complete) (second : List BlockToken) :
    (walk (first ++ second) []).Complete ↔ (walk second []).Complete := by
  rw [walk_append, h.unmatched, h.unclosed]
  exact ⟨fun hboth => ⟨hboth.unmatched, hboth.unclosed⟩,
    fun hsecond => ⟨hsecond.unmatched, hsecond.unclosed⟩⟩

/-! ## Other tokens of the same names -/

section Map

variable {f : BlockToken → BlockToken} (hname : ∀ t, (f t).name = t.name)

/-- A pairing of other tokens. -/
def mapTokens (f : BlockToken → BlockToken) (p : Pairing) : Pairing where
  blocks := p.blocks.map fun b => ⟨f b.opener, f b.closer, b.depth⟩
  unmatched := p.unmatched.map f
  unclosed := p.unclosed.map f

theorem complete_mapTokens_iff (f : BlockToken → BlockToken) (p : Pairing) :
    (p.mapTokens f).Complete ↔ p.Complete := by
  constructor
  · intro h
    exact ⟨List.map_eq_nil_iff.mp h.unmatched, List.map_eq_nil_iff.mp h.unclosed⟩
  · intro h
    exact ⟨List.map_eq_nil_iff.mpr h.unmatched, List.map_eq_nil_iff.mpr h.unclosed⟩

include hname

theorem take?_map (name : Text) (stack : List BlockToken) :
    take? name (stack.map f) =
      (take? name stack).map fun found => (f found.1, found.2.1.map f, found.2.2) := by
  induction stack with
  | nil => rfl
  | cons top below ih =>
    rw [List.map_cons, take?, take?, hname]
    split
    · rw [Option.map_some, List.length_map]
    · rw [ih, Option.map_map, Option.map_map]
      rfl

variable (hcloser : ∀ t, (f t).isCloser = t.isCloser)
include hcloser

/-- Only the names of the tokens count, and whether they close. -/
theorem walk_map (tokens stack : List BlockToken) :
    walk (tokens.map f) (stack.map f) = (walk tokens stack).mapTokens f := by
  induction tokens generalizing stack with
  | nil =>
    rw [List.map_nil, walk, walk, ← List.map_reverse]
    rfl
  | cons token tokens ih =>
    have hkind' := hcloser token
    rw [List.map_cons]
    cases hkind : token.isCloser with
    | false =>
      rw [hkind] at hkind'
      rw [walk_opener hkind, walk_opener hkind', ← List.map_cons, ih]
    | true =>
      rw [hkind] at hkind'
      cases htake : take? token.name stack with
      | none =>
        have hnone : take? (f token).name (stack.map f) = none := by
          rw [hname, take?_map hname, htake]
          rfl
        rw [walk_lone hkind htake, walk_lone hkind' hnone, ih]
        rfl
      | some found =>
        obtain ⟨opener, below, depth⟩ := found
        have hsome : take? (f token).name (stack.map f) = some (f opener, below.map f, depth) := by
          rw [hname, take?_map hname, htake]
          rfl
        rw [walk_matched hkind htake, walk_matched hkind' hsome, ih]
        rfl

theorem complete_map_iff (tokens : List BlockToken) :
    (walk (tokens.map f) []).Complete ↔ (walk tokens []).Complete := by
  have hmap := walk_map hname hcloser tokens []
  rw [List.map_nil] at hmap
  rw [hmap, complete_mapTokens_iff]

end Map

/-! ## The balance -/

section Count

variable (p : Text → Bool)

/-- The number of tokens whose names satisfy a condition. -/
def nameCount (tokens : List BlockToken) : Nat := tokens.countP fun t => p t.name

/-- The number of openers, or of closers, whose names satisfy a condition. -/
def kindCount (closes : Bool) (tokens : List BlockToken) : Nat :=
  tokens.countP fun t => t.isCloser == closes && p t.name

theorem nameCount_cons (token : BlockToken) (tokens : List BlockToken) :
    nameCount p (token :: tokens) = nameCount p tokens + nameCount p [token] := by
  simp [nameCount, List.countP_cons]

theorem kindCount_cons_same {closes : Bool} {token : BlockToken} (h : token.isCloser = closes)
    (tokens : List BlockToken) :
    kindCount p closes (token :: tokens) = kindCount p closes tokens + nameCount p [token] := by
  simp [kindCount, nameCount, List.countP_cons, h]

theorem kindCount_cons_other {closes : Bool} {token : BlockToken} (h : token.isCloser ≠ closes)
    (tokens : List BlockToken) :
    kindCount p closes (token :: tokens) = kindCount p closes tokens := by
  simp [kindCount, h]

theorem kindCount_append (closes : Bool) (first second : List BlockToken) :
    kindCount p closes (first ++ second) = kindCount p closes first + kindCount p closes second :=
  List.countP_append

/-- An opener that is taken from the stack counts as the closer that takes it. -/
theorem nameCount_take? {token opener : BlockToken} {stack below : List BlockToken} {depth : Nat}
    (h : take? token.name stack = some (opener, below, depth)) :
    nameCount p stack = nameCount p below + nameCount p [token] := by
  obtain ⟨above, below', rfl, rfl, -, hname, -⟩ := take?_eq_some h
  simp only [nameCount, List.countP_append, List.countP_cons, List.countP_nil, hname]
  omega

/-- **A walk keeps the balance**: the openers, with those on the stack, are as many as the closers, if
what stays alone on either side is added to the other. -/
theorem walk_count (tokens stack : List BlockToken) :
    nameCount p stack + kindCount p false tokens + nameCount p (walk tokens stack).unmatched =
      kindCount p true tokens + nameCount p (walk tokens stack).unclosed := by
  induction tokens generalizing stack with
  | nil =>
    unfold nameCount
    rw [walk, List.countP_reverse]
    exact (Nat.zero_add _).symm
  | cons token tokens ih =>
    cases hkind : token.isCloser with
    | false =>
      have hlater := ih (token :: stack)
      rw [nameCount_cons] at hlater
      rw [walk_opener hkind, kindCount_cons_same p hkind, kindCount_cons_other p (by simp [hkind])]
      omega
    | true =>
      rw [kindCount_cons_other p (by simp [hkind]), kindCount_cons_same p hkind]
      cases htake : take? token.name stack with
      | none =>
        have hlater := ih stack
        rw [walk_lone hkind htake, nameCount_cons]
        dsimp only
        omega
      | some found =>
        obtain ⟨opener, below, depth⟩ := found
        have hlater := ih below
        rw [walk_matched hkind htake, nameCount_take? p htake]
        dsimp only
        omega

end Count

/-- Constructs that are complete have as many openers as closers of any set of names. -/
theorem Complete.kindCount_eq (h : (walk tokens []).Complete) (p : Text → Bool) :
    kindCount p false tokens = kindCount p true tokens := by
  have hcount := walk_count p tokens []
  rw [h.unmatched, h.unclosed] at hcount
  simpa [nameCount] using hcount

end Pairing
end TemplateLint
