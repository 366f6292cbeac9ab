import Mathlib.Data.List.Sort
import TemplateLint.Block.Loop
import TemplateLint.Proofs.Antlers.Scanned
import TemplateLint.Proofs.Block.Depth
import TemplateLint.Proofs.Block.Directive

/-!
# The spans of constructs

The tokens of a text stand one behind the other; only the argument list of an opener may reach over later
tokens (`BlockToken.scan_inOrder`).  So the constructs of such tokens are told apart by their starts and
by their ends, and of two constructs with one name the spans are nested or disjoint
(`Pairing.arranged_ofTokens`).  This holds of the loops of a text (`arranged_loopsOf`), whatever the
loops of different names do.
-/
namespace TemplateLint

/-! ## Tokens -/

namespace BlockToken

/-- Tokens stand one behind the other, and a closer ends before the next token starts. -/
structure InOrder (tokens : List BlockToken) : Prop where
  spaced : tokens.Pairwise fun t later =>
    t.start < later.start ∧ (t.isCloser = true → t.stop ≤ later.start)
  ends : ∀ t ∈ tokens, t.start < t.stop

namespace InOrder

variable {tokens : List BlockToken}

theorem sublist {others : List BlockToken} (h : InOrder tokens) (hsub : others.Sublist tokens) :
    InOrder others :=
  ⟨h.spaced.sublist hsub, fun t ht => h.ends t (hsub.subset ht)⟩

/-- The token at an earlier place stands in front of the one at a later place. -/
theorem before (h : InOrder tokens) {i j : Nat} (hij : i < j) {t later : BlockToken}
    (ht : tokens[i]? = some t) (hlater : tokens[j]? = some later) :
    t.start < later.start ∧ (t.isCloser = true → t.stop ≤ later.start) := by
  obtain ⟨hi, rfl⟩ := List.getElem?_eq_some_iff.mp ht
  obtain ⟨hj, rfl⟩ := List.getElem?_eq_some_iff.mp hlater
  exact List.pairwise_iff_getElem.mp h.spaced i j hi hj hij

end InOrder

variable {text : Text}

/-- The token of a directive starts with it, and a closer ends with it. -/
theorem ofDirective?_start {m : Match} {t : BlockToken} (h : ofDirective? text m = some t) :
    t.start = m.start ∧ (t.isCloser = true → t.stop = m.stop) := by
  unfold ofDirective? at h
  dsimp only at h
  split at h
  · cases h
  · obtain rfl := Option.some.inj h
    exact ⟨rfl, fun hcloses => if_pos hcloses⟩

theorem ofBlade_inOrder (text : Text) : InOrder (ofBlade text) := by
  constructor
  · rw [ofBlade, List.pairwise_filterMap]
    refine (Pattern.findAll_pairwise directivePattern text).imp ?_
    intro m later hlt t ht t' ht'
    obtain ⟨hstart, hstop⟩ := ofDirective?_start ht
    rw [hstart, (ofDirective?_start ht').1]
    exact ⟨hlt.1, fun hcloses => hstop hcloses ▸ hlt.2⟩
  · intro t ht
    have hstop := (mem_ofBlade_iff.mp ht).stop_eq
    rw [Arguments.stop, nameStop] at hstop
    split at hstop <;> omega

theorem ofAntlers_inOrder (text : Text) : InOrder (ofAntlers text) := by
  have hscan := Tag.scanned_scan text
  have hends : ∀ {tag : Tag} {t : BlockToken},
      ofTag? text (closedNames (Tag.scan text)) tag = some t →
        t.start = tag.start ∧ t.stop = tag.stop := by
    intro tag t ht
    obtain ⟨role, -, rfl⟩ := Option.map_eq_some_iff.mp ht
    exact ⟨rfl, rfl⟩
  constructor
  · rw [ofAntlers, List.pairwise_filterMap]
    refine hscan.increasing.imp_of_mem ?_
    intro tag later htag hlater hlt t ht t' ht'
    obtain ⟨hstart, hstop⟩ := hends ht
    rw [hstart, hstop, (hends ht').1]
    exact ⟨hlt, fun _ => ((hscan.starts_iff later.start).mp ⟨later, hlater, rfl⟩).1 tag htag hlt⟩
  · intro t ht
    obtain ⟨tag, htag, ht⟩ := List.mem_filterMap.mp ht
    obtain ⟨hstart, hstop⟩ := hends ht
    have hle := (hscan.closes tag htag).le
    omega

/-- The tokens of a text stand one behind the other. -/
theorem scan_inOrder (dialect : Dialect) (text : Text) : InOrder (scan dialect text) := by
  cases dialect with
  | blade => exact ofBlade_inOrder text
  | antlers => exact ofAntlers_inOrder text
  | unknown => exact ⟨.nil, fun t ht => absurd ht List.not_mem_nil⟩

end BlockToken

/-! ## Constructs -/

namespace Block

/-- The spans of two constructs are nested or disjoint. -/
def NestedOrDisjoint (b c : Block) : Prop :=
  b = c ∨ b.contains c = true ∨ c.contains b = true ∨ b.stop ≤ c.start ∨ c.stop ≤ b.start

instance (b c : Block) : Decidable (b.NestedOrDisjoint c) := inferInstanceAs (Decidable (_ ∨ _))

theorem NestedOrDisjoint.symm {b c : Block} (h : b.NestedOrDisjoint c) : c.NestedOrDisjoint b := by
  rcases h with rfl | h | h | h | h
  · exact Or.inl rfl
  · exact Or.inr (Or.inr (Or.inl h))
  · exact Or.inr (Or.inl h)
  · exact Or.inr (Or.inr (Or.inr (Or.inr h)))
  · exact Or.inr (Or.inr (Or.inr (Or.inl h)))

/-- No two of some constructs cross. -/
def NoneCross (blocks : List Block) : Prop := ∀ b ∈ blocks, ∀ c ∈ blocks, b.NestedOrDisjoint c

instance (blocks : List Block) : Decidable (NoneCross blocks) :=
  inferInstanceAs (Decidable (∀ b ∈ blocks, ∀ c ∈ blocks, b.NestedOrDisjoint c))

theorem contains_iff {b c : Block} :
    b.contains c = true ↔ b.start < c.start ∧ c.stop ≤ b.stop := by
  rw [contains, Bool.and_eq_true, decide_eq_true_iff, decide_eq_true_iff]

theorem contains_trans {b c d : Block} (h : b.contains c = true) (h' : c.contains d = true) :
    b.contains d = true := by
  rw [contains_iff] at h h' ⊢
  omega

/-- An offset lies in the span of a construct. -/
def Covers (b : Block) (offset : Nat) : Prop := b.start ≤ offset ∧ offset < b.stop

instance (b : Block) (offset : Nat) : Decidable (b.Covers offset) :=
  inferInstanceAs (Decidable (_ ∧ _))

/-- A construct spans the start of every one inside it. -/
theorem covers_of_contains {b c : Block} (hspan : c.start < c.stop) (h : b.contains c = true) :
    b.Covers c.start := by
  rw [contains_iff] at h
  exact ⟨by omega, by omega⟩

/-- Of two constructs around an offset that do not cross one is inside the other. -/
theorem NestedOrDisjoint.of_covers {b c : Block} {offset : Nat} (h : b.NestedOrDisjoint c)
    (hb : b.Covers offset) (hc : c.Covers offset) :
    b = c ∨ b.contains c = true ∨ c.contains b = true := by
  obtain ⟨hstart, hstop⟩ := hb
  obtain ⟨hstart', hstop'⟩ := hc
  rcases h with heq | h | h | h | h
  · exact Or.inl heq
  · exact Or.inr (Or.inl h)
  · exact Or.inr (Or.inr h)
  · omega
  · omega

/-- What holds of the constructs of a text, in the order in which they start: each has its ends in order,
a closer ends before the next one starts, and of constructs with one name the spans are nested or
disjoint. -/
structure Arranged (blocks : List Block) : Prop where
  increasing : blocks.Pairwise (·.start < ·.start)
  openers : ∀ b ∈ blocks, b.start < b.opener.stop
  ends : ∀ b ∈ blocks, b.start < b.closer.start ∧ b.closer.start < b.stop
  closers : ∀ b ∈ blocks, ∀ c ∈ blocks, b ≠ c → b.stop ≤ c.closer.start ∨ c.stop ≤ b.closer.start
  named : ∀ b ∈ blocks, ∀ c ∈ blocks, b.name = c.name → b.NestedOrDisjoint c

namespace Arranged

variable {blocks : List Block} {b c : Block}

theorem nodup (h : Arranged blocks) : blocks.Nodup :=
  h.increasing.imp fun hlt he => Nat.ne_of_lt hlt (congrArg Block.start he)

theorem eq_of_start_eq (h : Arranged blocks) (hb : b ∈ blocks) (hc : c ∈ blocks)
    (hstart : b.start = c.start) : b = c := by
  obtain ⟨m, hm, rfl⟩ := List.mem_iff_getElem.mp hb
  obtain ⟨n, hn, rfl⟩ := List.mem_iff_getElem.mp hc
  have hincreasing := List.pairwise_iff_getElem.mp h.increasing
  rcases Nat.lt_trichotomy m n with hlt | rfl | hlt
  · have hne := hincreasing m n hm hn hlt
    omega
  · rfl
  · have hne := hincreasing n m hn hm hlt
    omega

theorem start_lt_stop (h : Arranged blocks) (hb : b ∈ blocks) : b.start < b.stop := by
  have hends := h.ends b hb
  omega

/-- A construct inside another one ends before the closer of the other. -/
theorem stop_le_closer (h : Arranged blocks) (hb : b ∈ blocks) (hc : c ∈ blocks)
    (hcontains : b.contains c = true) : c.stop ≤ b.closer.start := by
  rw [contains_iff] at hcontains
  have hne : b ≠ c := by
    rintro rfl
    omega
  have hends := h.ends c hc
  rcases h.closers b hb c hc hne with hle | hle
  · omega
  · exact hle

end Arranged

end Block

namespace Pairing

open BlockToken Block

variable {tokens : List BlockToken}

/-- Matched places are told by the place of the opener. -/
theorem Matched.eq_of_fst_eq {p q : Nat × Nat} (hp : Matched tokens p.1 p.2)
    (hq : Matched tokens q.1 q.2) (h : p.1 = q.1) : p = q :=
  Prod.ext h (hp.closer_unique (h ▸ hq))

/-- Matched places are told by the place of the closer. -/
theorem Matched.eq_of_snd_eq {p q : Nat × Nat} (hp : Matched tokens p.1 p.2)
    (hq : Matched tokens q.1 q.2) (h : p.2 = q.2) : p = q :=
  Prod.ext (hp.opener_unique (h ▸ hq)) h

namespace BlockAt

variable {b c : Block} {p q : Nat × Nat}

/-- The construct at two matched places. -/
theorem eq_of_places_eq (hb : BlockAt tokens b p) (hc : BlockAt tokens c p)
    (hp : Matched tokens p.1 p.2) : b = c := by
  obtain ⟨opener, closer, depth⟩ := b
  obtain ⟨opener', closer', depth'⟩ := c
  obtain rfl : opener = opener' := Option.some.inj (hb.opener.symm.trans hc.opener)
  obtain rfl : closer = closer' := Option.some.inj (hb.closer.symm.trans hc.closer)
  obtain rfl : depth = depth' := (hb.depth_eq hp).trans (hc.depth_eq hp).symm
  rfl

theorem matchedAt (hb : BlockAt tokens b p) (hp : Matched tokens p.1 p.2) :
    MatchedAt tokens p.1 p.2 b.opener b.closer := by
  obtain ⟨o, c, hm⟩ := hp
  obtain rfl : o = b.opener := Option.some.inj (hm.opener_at.symm.trans hb.opener)
  obtain rfl : c = b.closer := Option.some.inj (hm.closer_at.symm.trans hb.closer)
  exact hm

/-- Of two constructs with one name the one that starts later lies inside the other or behind it. -/
theorem nestedOrDisjoint (h : InOrder tokens) (hb : BlockAt tokens b p) (hc : BlockAt tokens c q)
    (hp : Matched tokens p.1 p.2) (hq : Matched tokens q.1 q.2) (hname : b.name = c.name)
    (hlt : p.1 < q.1) : b.NestedOrDisjoint c := by
  have hmb := hb.matchedAt hp
  have hmc := hc.matchedAt hq
  rcases Nat.lt_or_ge q.1 p.2 with hinside | hbehind
  · have hcloser : b.closer.name = c.closer.name :=
      hmb.name_eq.symm.trans (hname.trans hmc.name_eq)
    have hends := hmb.closer_lt hmc hcloser hlt hinside
    refine Or.inr (Or.inl (contains_iff.mpr ⟨(h.before hlt hb.opener hc.opener).1, ?_⟩))
    have hstop := (h.before hends hc.closer hb.closer).2 hmc.closes
    have hclose := h.ends b.closer (List.mem_of_getElem? hb.closer)
    unfold Block.stop
    omega
  · have hne : p.2 ≠ q.1 := by
      intro he
      have hkind := hp.kindAt_closer
      rw [he, hq.kindAt_opener] at hkind
      cases hkind
    have hstop := (h.before (Nat.lt_of_le_of_ne hbehind hne) hb.closer hc.opener).2 hmb.closes
    exact Or.inr (Or.inr (Or.inr (Or.inl hstop)))

end BlockAt

/-- **The constructs of tokens that stand in order**: they are told apart by their starts and by their
ends, and constructs with one name do not cross. -/
theorem arranged_ofTokens (h : InOrder tokens) : Arranged (ofTokens tokens).blocks := by
  obtain ⟨pairs, hnodup, hmatched, hblocks⟩ := blockAt_ofTokens tokens
  have hplace : ∀ b ∈ (ofTokens tokens).blocks,
      ∃ p, BlockAt tokens b p ∧ Matched tokens p.1 p.2 := by
    intro b hb
    obtain ⟨n, hn, rfl⟩ := List.mem_iff_getElem.mp hb
    have hn' : n < pairs.length := hblocks.length_eq ▸ hn
    exact ⟨pairs[n], hblocks.get hn hn', (hmatched _ _).mp (List.getElem_mem hn')⟩
  refine ⟨?_, fun b hb => ?_, fun b hb => ?_, fun b hb c hc hne => ?_, fun b hb c hc hname => ?_⟩
  · -- the constructs are sorted, and two of them with one start would have one opener
    have hle : (ofTokens tokens).blocks.Pairwise fun a b => decide (a.start ≤ b.start) = true :=
      List.pairwise_mergeSort (fun a b c hab hbc => by simp at hab hbc ⊢; omega)
        (fun a b => by simp; omega) _
    refine List.pairwise_iff_getElem.mpr fun m n hm hn hmn => ?_
    have hm' : m < pairs.length := hblocks.length_eq ▸ hm
    have hn' : n < pairs.length := hblocks.length_eq ▸ hn
    have hb := hblocks.get hm hm'
    have hc := hblocks.get hn hn'
    have hstart := of_decide_eq_true (List.pairwise_iff_getElem.mp hle m n hm hn hmn)
    rcases Nat.lt_trichotomy pairs[m].1 pairs[n].1 with hlt | heq | hlt
    · exact (h.before hlt hb.opener hc.opener).1
    · have hsame := ((hmatched _ _).mp (List.getElem_mem hm')).eq_of_fst_eq
        ((hmatched _ _).mp (List.getElem_mem hn')) heq
      have hindex := hnodup.getElem_inj_iff.mp hsame
      omega
    · exact absurd (h.before hlt hc.opener hb.opener).1 (Nat.not_lt.mpr hstart)
  · obtain ⟨p, hp, -⟩ := hplace b hb
    exact h.ends b.opener (List.mem_of_getElem? hp.opener)
  · obtain ⟨p, hp, hm⟩ := hplace b hb
    exact ⟨(h.before (hp.matchedAt hm).lt hp.opener hp.closer).1,
      h.ends b.closer (List.mem_of_getElem? hp.closer)⟩
  · obtain ⟨p, hp, hm⟩ := hplace b hb
    obtain ⟨q, hq, hm'⟩ := hplace c hc
    rcases Nat.lt_trichotomy p.2 q.2 with hlt | heq | hlt
    · exact Or.inl ((h.before hlt hp.closer hq.closer).2 (hp.matchedAt hm).closes)
    · obtain rfl := hm.eq_of_snd_eq hm' heq
      exact absurd (hp.eq_of_places_eq hq hm) hne
    · exact Or.inr ((h.before hlt hq.closer hp.closer).2 (hq.matchedAt hm').closes)
  · obtain ⟨p, hp, hm⟩ := hplace b hb
    obtain ⟨q, hq, hm'⟩ := hplace c hc
    rcases Nat.lt_trichotomy p.1 q.1 with hlt | heq | hlt
    · exact hp.nestedOrDisjoint h hq hm hm' hname hlt
    · obtain rfl := hm.eq_of_fst_eq hm' heq
      exact Or.inl (hp.eq_of_places_eq hq hm)
    · exact (hq.nestedOrDisjoint h hp hm' hm hname.symm hlt).symm

end Pairing

/-- The loops of a text are arranged as its tokens are. -/
theorem arranged_loopsOf (dialect : Dialect) (text : Text) :
    Block.Arranged (loopsOf dialect text) :=
  Pairing.arranged_ofTokens ((BlockToken.scan_inOrder dialect text).sublist List.filter_sublist)

/-- The loops of a text in the order in which they end. -/
def loopsByEnd (dialect : Dialect) (text : Text) : List Block :=
  (Pairing.walk ((BlockToken.scan dialect text).filter fun t => t.name ∈ loopNames dialect) []).blocks

/-- The loops of a text by a sort that can be run. -/
theorem loopsOf_eq (dialect : Dialect) (text : Text) :
    loopsOf dialect text = (loopsByEnd dialect text).insertionSort (·.start ≤ ·.start) := by
  have harranged := arranged_loopsOf dialect text
  have : Std.Total fun b c : Block => b.start ≤ c.start := ⟨fun b c => Nat.le_total b.start c.start⟩
  have : IsTrans Block fun b c => b.start ≤ c.start := ⟨fun _ _ _ => Nat.le_trans⟩
  have hperm : (loopsOf dialect text).Perm ((loopsByEnd dialect text).insertionSort _) :=
    (List.mergeSort_perm _ _).trans
      (List.perm_insertionSort (fun b c : Block => b.start ≤ c.start) _).symm
  refine hperm.eq_of_pairwise ?_ (harranged.increasing.imp Nat.le_of_lt)
    (List.pairwise_insertionSort _ _)
  intro b c hb hc hle hge
  exact harranged.eq_of_start_eq hb (hperm.mem_iff.mpr hc) (Nat.le_antisymm hle hge)

end TemplateLint
