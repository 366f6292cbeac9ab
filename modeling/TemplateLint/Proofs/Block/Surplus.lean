import Mathlib.Order.Bounds.Basic
import TemplateLint.Proofs.Block.Joined

/-!
# The surplus of closers

On the way through a stream of tokens the closers of a name outnumber its openers by the most somewhere,
and that many closers stay alone.  Nowhere is the surplus larger than the number of lone closers at the
end (`Pairing.surplus_le`), and where the last of them stands no opener of the name is open, so that the
two are equal there (`Pairing.exists_surplus_eq`).  The balance of the whole stream then tells how many
openers are never closed (`StructureRules.blockBalance_surplus`).
-/
namespace TemplateLint
namespace Pairing

variable {name : Text} {seen tokens : List BlockToken}

/-- The number of openers of a name. -/
def openers (name : Text) (tokens : List BlockToken) : Nat := kindCount (· == name) false tokens

/-- The number of closers of a name. -/
def closers (name : Text) (tokens : List BlockToken) : Nat := kindCount (· == name) true tokens

/-- How many more closers of a name than openers there are. -/
def surplus (name : Text) (tokens : List BlockToken) : Int :=
  (closers name tokens : Int) - openers name tokens

/-- The number of tokens of a name. -/
def named (name : Text) (tokens : List BlockToken) : Nat := nameCount (· == name) tokens

theorem named_append (name : Text) (first second : List BlockToken) :
    named name (first ++ second) = named name first + named name second :=
  List.countP_append

theorem named_eq_zero_iff : named name tokens = 0 ↔ ∀ t ∈ tokens, t.name ≠ name := by
  rw [named, nameCount, List.countP_eq_zero]
  simp

/-- A stream without a token of any name is empty. -/
theorem eq_nil_of_named (h : ∀ name, named name tokens = 0) : tokens = [] :=
  List.eq_nil_iff_forall_not_mem.mpr fun t ht => named_eq_zero_iff.mp (h t.name) t ht rfl

/-- The surplus is what stays alone of the closers, less what stays alone of the openers. -/
theorem surplus_eq (name : Text) (tokens : List BlockToken) :
    surplus name tokens =
      (named name (walk tokens []).unmatched : Int) - named name (walk tokens []).unclosed := by
  have hcount := walk_count (· == name) tokens []
  have hstack : nameCount (· == name) [] = 0 := rfl
  unfold surplus closers openers named
  omega

/-- A closer that stays alone does so whatever follows. -/
theorem named_unmatched_mono (h : seen <+: tokens) (name : Text) :
    named name (walk seen []).unmatched ≤ named name (walk tokens []).unmatched := by
  obtain ⟨later, rfl⟩ := h
  rw [walk_append, named_append]
  exact Nat.le_add_right _ _

/-- Nowhere do the closers of a name outnumber its openers by more than there are lone ones. -/
theorem surplus_le (h : seen <+: tokens) (name : Text) :
    surplus name seen ≤ named name (walk tokens []).unmatched := by
  have hmono := named_unmatched_mono h name
  rw [surplus_eq]
  omega

/-- One more token adds no lone closer of a name, or else no opener of the name is open behind it. -/
theorem named_concat_cases (name : Text) (tokens : List BlockToken) (token : BlockToken) :
    named name (walk (tokens ++ [token]) []).unmatched = named name (walk tokens []).unmatched ∨
      named name (walk (tokens ++ [token]) []).unclosed = 0 := by
  rw [walk_append]
  dsimp only
  rw [named_append]
  generalize (walk tokens []).unclosed.reverse = stack
  cases hkind : token.isCloser with
  | false =>
    rw [walk_opener hkind]
    exact Or.inl rfl
  | true =>
    cases htake : take? token.name stack with
    | some found =>
      obtain ⟨opener, below, depth⟩ := found
      rw [walk_matched hkind htake]
      exact Or.inl rfl
    | none =>
      rw [walk_lone hkind htake]
      by_cases hname : token.name = name
      · right
        subst hname
        refine named_eq_zero_iff.mpr fun t ht => ?_
        exact (take?_eq_none_iff _ _).mp htake t (List.mem_reverse.mp ht)
      · left
        have hother : named name [token] = 0 := named_eq_zero_iff.mpr (by simpa using hname)
        exact congrArg (named name (walk tokens []).unmatched + ·) hother

/-- Somewhere the closers of a name outnumber its openers by as many as stay alone. -/
theorem exists_surplus_eq (name : Text) (tokens : List BlockToken) :
    ∃ seen, seen <+: tokens ∧ surplus name seen = named name (walk tokens []).unmatched := by
  induction tokens using List.reverseRecOn with
  | nil => exact ⟨[], List.prefix_refl [], rfl⟩
  | append_singleton tokens token ih =>
    rcases named_concat_cases name tokens token with hsame | hnone
    · obtain ⟨seen, hseen, heq⟩ := ih
      exact ⟨seen, hseen.trans (List.prefix_append tokens [token]), by rw [heq, hsame]⟩
    · refine ⟨tokens ++ [token], List.prefix_refl _, ?_⟩
      rw [surplus_eq, hnone]
      exact Int.sub_zero _

/-- **The lone closers of a name are its greatest surplus** over all that may be seen of a stream. -/
theorem isGreatest_surplus (name : Text) (tokens : List BlockToken) :
    IsGreatest (surplus name '' {seen | seen <+: tokens})
      (named name (walk tokens []).unmatched) := by
  constructor
  · exact exists_surplus_eq name tokens
  · rintro _ ⟨seen, hseen, rfl⟩
    exact surplus_le hseen name

/-- No end stays alone exactly if no name ever has more closers than openers and all names have as many
of both. -/
theorem complete_iff_surplus (tokens : List BlockToken) : (walk tokens []).Complete ↔
    ∀ name, (∀ seen, seen <+: tokens → surplus name seen ≤ 0) ∧ surplus name tokens = 0 := by
  constructor
  · intro h name
    have hunmatched : named name (walk tokens []).unmatched = 0 := by
      rw [h.unmatched]
      rfl
    have hunclosed : named name (walk tokens []).unclosed = 0 := by
      rw [h.unclosed]
      rfl
    refine ⟨fun seen hseen => ?_, ?_⟩
    · have hle := surplus_le hseen name
      omega
    · rw [surplus_eq, hunmatched, hunclosed]
      rfl
  · intro h
    have hunmatched : ∀ name, named name (walk tokens []).unmatched = 0 := by
      intro name
      obtain ⟨seen, hseen, heq⟩ := exists_surplus_eq name tokens
      have hle := (h name).1 seen hseen
      omega
    refine ⟨eq_nil_of_named hunmatched, eq_nil_of_named fun name => ?_⟩
    have htotal := (h name).2
    rw [surplus_eq, hunmatched name] at htotal
    omega

end Pairing

namespace StructureRules

open Pairing

variable {dialect : Dialect} {name : Text}

/-- An error of a rule with a message. -/
def isErrorWith (rule message : Text) (f : Finding) : Bool :=
  f.isError && f.rule == rule && f.message == message

/-- The error that a closer of a name has no opener. -/
def isUnmatchedOf (dialect : Dialect) (name : Text) (f : Finding) : Bool :=
  isErrorWith "unmatched_directive"
    ((f.evidence.getD []).strip ++ " has no matching " ++ openerText dialect name) f

/-- The error that an opener of a name is never closed. -/
def isUnclosedOf (dialect : Dialect) (name : Text) (f : Finding) : Bool :=
  isErrorWith "unclosed_directive"
    (openerText dialect name ++ " is never closed with " ++ closerText dialect name) f

/-! ## The names that errors tell -/

theorem openerText_eq (dialect : Dialect) :
    ∃ front back, ∀ name, openerText dialect name = front ++ name ++ back := by
  cases dialect with
  | blade => exact ⟨"@", [], fun name => (List.append_nil _).symm⟩
  | antlers => exact ⟨_, _, fun name => rfl⟩
  | unknown => exact ⟨_, _, fun name => rfl⟩

theorem closerText_eq (dialect : Dialect) :
    ∃ front back, ∀ name, closerText dialect name = front ++ name ++ back := by
  cases dialect with
  | blade => exact ⟨"@end", [], fun name => (List.append_nil _).symm⟩
  | antlers => exact ⟨"\x7b\x7b /", " \x7d\x7d", fun name => rfl⟩
  | unknown => exact ⟨"\x7b\x7b /", " \x7d\x7d", fun name => rfl⟩

theorem openerText_inj {name' : Text} (h : openerText dialect name = openerText dialect name') :
    name = name' := by
  obtain ⟨front, back, hopener⟩ := openerText_eq dialect
  rw [hopener, hopener] at h
  exact List.append_cancel_left (List.append_cancel_right h)

/-- The message about an opener that is never closed tells its name. -/
theorem unclosedMessage_inj {name' middle : Text}
    (h : openerText dialect name ++ middle ++ closerText dialect name =
      openerText dialect name' ++ middle ++ closerText dialect name') : name = name' := by
  obtain ⟨front, back, hopener⟩ := openerText_eq dialect
  obtain ⟨front', back', hcloser⟩ := closerText_eq dialect
  -- the name stands in it twice, so its length tells that of the name
  have hlength := congrArg List.length h
  simp only [hopener, hcloser, List.length_append] at hlength
  have hopeners : (openerText dialect name).length = (openerText dialect name').length := by
    simp only [hopener, List.length_append]
    omega
  rw [List.append_assoc, List.append_assoc] at h
  exact openerText_inj (List.append_inj_left h hopeners)

theorem isErrorWith_balanceError {rule rule' message message' evidence : Text} {t : BlockToken} :
    isErrorWith rule message (balanceError rule' t message' evidence) = true ↔
      rule' = rule ∧ message' = message := by
  simp [isErrorWith, balanceError, Finding.isError]

theorem isUnmatchedOf_unmatchedError (dialect : Dialect) (name : Text) (t : BlockToken) :
    isUnmatchedOf dialect name (unmatchedError dialect t) = (t.name == name) := by
  rw [Bool.eq_iff_iff, beq_iff_eq]
  refine isErrorWith_balanceError.trans ⟨fun h => ?_, ?_⟩
  · exact openerText_inj (List.append_cancel_left h.2)
  · rintro rfl
    exact ⟨rfl, rfl⟩

theorem isUnclosedOf_unclosedError (dialect : Dialect) (name : Text) (t : BlockToken) :
    isUnclosedOf dialect name (unclosedError dialect t) = (t.name == name) := by
  rw [Bool.eq_iff_iff, beq_iff_eq]
  refine isErrorWith_balanceError.trans ⟨fun h => unclosedMessage_inj h.2, ?_⟩
  rintro rfl
  exact ⟨rfl, rfl⟩

/-- The two kinds of errors are told apart by their rules. -/
theorem rules_ne : ("unclosed_directive" : Text) ≠ "unmatched_directive" := by decide +kernel

theorem isUnmatchedOf_unclosedError (dialect : Dialect) (name : Text) (t : BlockToken) :
    isUnmatchedOf dialect name (unclosedError dialect t) = false :=
  Bool.eq_false_iff.mpr fun h => rules_ne (isErrorWith_balanceError.mp h).1

theorem isUnclosedOf_unmatchedError (dialect : Dialect) (name : Text) (t : BlockToken) :
    isUnclosedOf dialect name (unmatchedError dialect t) = false :=
  Bool.eq_false_iff.mpr fun h => rules_ne (isErrorWith_balanceError.mp h).1.symm

/-! ## The errors of a document -/

/-- The block tokens of a document. -/
def tokensOf (ctx : RuleContext) : List BlockToken := BlockToken.scan ctx.dialect ctx.text

/-- The errors are about the lone closers and the lone openers. -/
theorem countP_blockBalance (ctx : RuleContext) (told : Finding → Bool) :
    (blockBalance ctx).countP told =
      (pairingOf ctx).unmatched.countP (told <| unmatchedError ctx.dialect ·) +
        (pairingOf ctx).unclosed.countP (told <| unclosedError ctx.dialect ·) := by
  rw [blockBalance, List.countP_append, List.countP_map, List.countP_map]
  rfl

theorem countP_isUnmatchedOf (ctx : RuleContext) (name : Text) :
    (blockBalance ctx).countP (isUnmatchedOf ctx.dialect name) =
      named name (pairingOf ctx).unmatched := by
  rw [countP_blockBalance]
  simp only [isUnmatchedOf_unmatchedError, isUnmatchedOf_unclosedError, List.countP_false]
  rfl

theorem countP_isUnclosedOf (ctx : RuleContext) (name : Text) :
    (blockBalance ctx).countP (isUnclosedOf ctx.dialect name) =
      named name (pairingOf ctx).unclosed := by
  rw [countP_blockBalance]
  simp only [isUnclosedOf_unmatchedError, isUnclosedOf_unclosedError, List.countP_false]
  exact Nat.zero_add _

/-- **The errors about a name follow from the surplus of its closers**: the closers without an opener are
as many as the greatest surplus on the way through the stream, and the openers that are never closed
make up for the balance of the whole stream.  So a document is balanced exactly if, for every name, no
start of the stream has more closers than openers and the whole stream has as many of both, however the
names interleave. -/
theorem blockBalance_surplus (ctx : RuleContext) :
    (∀ name, IsGreatest (surplus name '' {seen | seen <+: tokensOf ctx})
        ((blockBalance ctx).countP (isUnmatchedOf ctx.dialect name)) ∧
      ((blockBalance ctx).countP (isUnclosedOf ctx.dialect name) : Int) =
        (blockBalance ctx).countP (isUnmatchedOf ctx.dialect name) +
          ((openers name (tokensOf ctx) : Int) - closers name (tokensOf ctx))) ∧
    (blockBalance ctx = [] ↔ ∀ name,
      (∀ seen, seen <+: tokensOf ctx → closers name seen ≤ openers name seen) ∧
        openers name (tokensOf ctx) = closers name (tokensOf ctx)) := by
  have hunmatched : ∀ name, (blockBalance ctx).countP (isUnmatchedOf ctx.dialect name) =
      named name (walk (tokensOf ctx) []).unmatched := countP_isUnmatchedOf ctx
  have hunclosed : ∀ name, (blockBalance ctx).countP (isUnclosedOf ctx.dialect name) =
      named name (walk (tokensOf ctx) []).unclosed := countP_isUnclosedOf ctx
  refine ⟨fun name => ⟨?_, ?_⟩, ?_⟩
  · rw [hunmatched]
    exact isGreatest_surplus name (tokensOf ctx)
  · have hsurplus := surplus_eq name (tokensOf ctx)
    rw [hunmatched, hunclosed]
    unfold surplus at hsurplus
    omega
  · have hcomplete : blockBalance ctx = [] ↔ (walk (tokensOf ctx) []).Complete :=
      (blockBalance_eq_nil_iff ctx).trans (complete_ofTokens_iff (tokensOf ctx))
    rw [hcomplete, complete_iff_surplus]
    refine forall_congr' fun name => and_congr (forall₂_congr fun seen _ => ?_) ?_
    · unfold surplus
      omega
    · unfold surplus
      omega

/-- Names that interleave do not disturb each other: one condition too many is closed at first, and one
too few at the end. -/
example :
    let ctx : RuleContext :=
      ⟨"@endif @if(a) @foreach(b) @endif @endforeach @if(c)", .blade, .default, .default, true, []⟩
    (blockBalance ctx).length = 2 ∧ (blockBalance ctx).countP (isUnmatchedOf .blade "if") = 1 ∧
      (blockBalance ctx).countP (isUnclosedOf .blade "if") = 1 := by
  decide +kernel

end StructureRules
end TemplateLint
