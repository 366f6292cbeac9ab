import Mathlib.Data.List.Forall2
import Mathlib.Data.List.Perm.Basic
import TemplateLint.Proofs.Block.Matching

/-!
# The roles of block tokens

The walk over the tokens keeps on its stack the openers that are still open, the latest on top
(`StackOf`).  Pushing, taking an opener out of the middle and passing over a closer keep this, so the
pairing gives every place of the token list exactly one role: the opener or the closer of a matched
pair, a lone closer or a lone opener (`ofTokens_roles`).
-/
namespace TemplateLint
namespace Pairing

variable (tokens : List BlockToken)

/-- A stack holds the tokens at the places of the openers that are open in front of `k`, the latest
on top. -/
structure StackOf (k : Nat) (stack : List BlockToken) (places : List Nat) : Prop where
  at_places : stack.map some = places.map (tokens[·]?)
  decreasing : places.Pairwise (· > ·)
  mem_iff : ∀ i, i ∈ places ↔ OpenAt tokens k i

/-- A construct has its ends at two places; its depth is the number of openers in front of its own
that are still open where it closes. -/
structure BlockAt (b : Block) (places : Nat × Nat) : Prop where
  opener : tokens[places.1]? = some b.opener
  closer : tokens[places.2]? = some b.closer
  depth : ∃ below : List Nat, below.Nodup ∧ b.depth = below.length ∧
    ∀ h, h ∈ below ↔ h < places.1 ∧ OpenAt tokens places.2 h

/-- What a pairing says about the tokens from `k` on: its constructs stand at the matched places, and
what it leaves alone stands at the places without a partner, in their order. -/
structure RolesFrom (k : Nat) (p : Pairing) (pairs : List (Nat × Nat)) (closers openers : List Nat) :
    Prop where
  blocks : List.Forall₂ (BlockAt tokens) p.blocks pairs
  pairs_increasing : pairs.Pairwise (·.2 < ·.2)
  pairs_iff : ∀ i j, (i, j) ∈ pairs ↔ k ≤ j ∧ Matched tokens i j
  unmatched : p.unmatched.map some = closers.map (tokens[·]?)
  closers_increasing : closers.Pairwise (· < ·)
  closers_iff : ∀ j, j ∈ closers ↔ k ≤ j ∧ LoneCloser tokens j
  unclosed : p.unclosed.map some = openers.map (tokens[·]?)
  openers_increasing : openers.Pairwise (· < ·)
  openers_iff : ∀ i, i ∈ openers ↔ LoneOpener tokens i

variable {tokens}

/-! ## The openers that are open -/

theorem Matched.lt_length {i j : Nat} (h : Matched tokens i j) : j < tokens.length := by
  obtain ⟨o, c, hm⟩ := h
  exact (List.getElem?_eq_some_iff.mp hm.closer_at).1

/-- The kind of the token at a place: whether it closes. -/
def kindAt (tokens : List BlockToken) (i : Nat) : Option Bool := tokens[i]?.map (·.isCloser)

theorem Matched.kindAt_opener {i j : Nat} (h : Matched tokens i j) :
    kindAt tokens i = some false := by
  obtain ⟨o, c, hm⟩ := h
  simp [kindAt, hm.opener_at, hm.opens]

theorem Matched.kindAt_closer {i j : Nat} (h : Matched tokens i j) :
    kindAt tokens j = some true := by
  obtain ⟨o, c, hm⟩ := h
  simp [kindAt, hm.closer_at, hm.closes]

theorem LoneCloser.kindAt {j : Nat} (h : LoneCloser tokens j) : kindAt tokens j = some true := by
  obtain ⟨c, hc, hcloses⟩ := h.closes
  simp [Pairing.kindAt, hc, hcloses]

theorem OpenAt.kindAt {k i : Nat} (h : OpenAt tokens k i) : kindAt tokens i = some false := by
  obtain ⟨o, ho, hopens⟩ := h.opens
  simp [Pairing.kindAt, ho, hopens]

theorem Matched.isCloser {i j : Nat} (h : Matched tokens i j) {t : BlockToken}
    (ht : tokens[j]? = some t) : t.isCloser = true := by
  obtain ⟨o, c, hm⟩ := h
  obtain rfl : c = t := Option.some.inj (hm.closer_at.symm.trans ht)
  exact hm.closes

/-- Behind one more token those are open that were, less the partner of the token, and the token
itself if it opens. -/
theorem openAt_succ_iff {k i : Nat} {t : BlockToken} (ht : tokens[k]? = some t) :
    OpenAt tokens (k + 1) i ↔
      (OpenAt tokens k i ∧ ¬ Matched tokens i k) ∨ (i = k ∧ t.isCloser = false) := by
  constructor
  · intro h
    rcases Nat.lt_succ_iff_lt_or_eq.mp h.lt with hlt | rfl
    · exact Or.inl ⟨⟨hlt, h.opens, fun j hj => h.alone j (Nat.lt_succ_of_lt hj)⟩,
        h.alone k (Nat.lt_succ_self k)⟩
    · obtain ⟨o, ho, hopens⟩ := h.opens
      obtain rfl : t = o := Option.some.inj (ht.symm.trans ho)
      exact Or.inr ⟨rfl, hopens⟩
  · rintro (⟨h, hnot⟩ | ⟨rfl, hopens⟩)
    · refine ⟨Nat.lt_succ_of_lt h.lt, h.opens, ?_⟩
      intro j hj
      rcases Nat.lt_succ_iff_lt_or_eq.mp hj with hlt | rfl
      · exact h.alone j hlt
      · exact hnot
    · refine ⟨Nat.lt_succ_self i, ⟨t, ht, hopens⟩, ?_⟩
      rintro j hj ⟨o, c, hm⟩
      have hlt := hm.lt
      omega

theorem loneOpener_iff {i : Nat} :
    LoneOpener tokens i ↔
      (∃ o, tokens[i]? = some o ∧ o.isCloser = false) ∧ ∀ j, ¬ Matched tokens i j := by
  constructor
  · intro h
    exact ⟨h.opens, fun j hj => h.alone j hj.lt_length hj⟩
  · rintro ⟨hopens, halone⟩
    obtain ⟨o, ho, -⟩ := id hopens
    exact ⟨(List.getElem?_eq_some_iff.mp ho).1, hopens, fun j _ => halone j⟩

/-! ## What one token does to the stack -/

namespace StackOf

variable {k : Nat} {stack : List BlockToken} {places : List Nat}

theorem empty : StackOf tokens 0 [] [] :=
  ⟨rfl, .nil, fun i => ⟨fun h => absurd h List.not_mem_nil, fun h => absurd h.lt (by omega)⟩⟩

theorem push (h : StackOf tokens k stack places) {t : BlockToken} (ht : tokens[k]? = some t)
    (hopens : t.isCloser = false) : StackOf tokens (k + 1) (t :: stack) (k :: places) := by
  refine ⟨?_, List.pairwise_cons.mpr ⟨?_, h.decreasing⟩, ?_⟩
  · rw [List.map_cons, List.map_cons, h.at_places, ht]
  · intro i hi
    exact ((h.mem_iff i).mp hi).lt
  · intro i
    have hnot : ¬ Matched tokens i k := by
      intro hm
      rw [hm.isCloser ht] at hopens
      cases hopens
    rw [List.mem_cons, h.mem_iff i, openAt_succ_iff ht]
    simp only [hnot, hopens, not_false_eq_true, and_true]
    exact or_comm

/-- A closer whose name is not on the stack has no partner, and the stack stays. -/
theorem skip (h : StackOf tokens k stack places) {c : BlockToken} (hc : tokens[k]? = some c)
    (hcloses : c.isCloser = true) (hnone : take? c.name stack = none) :
    LoneCloser tokens k ∧ StackOf tokens (k + 1) stack places := by
  have halone : ∀ i, ¬ Matched tokens i k := by
    intro i hm
    have hplace := (h.mem_iff i).mpr hm.openAt
    obtain ⟨o, c', hm⟩ := hm
    obtain rfl : c = c' := Option.some.inj (hc.symm.trans hm.closer_at)
    have hmem : some o ∈ stack.map some := by
      rw [h.at_places]
      exact List.mem_map.mpr ⟨i, hplace, hm.opener_at⟩
    have ho : o ∈ stack := by simpa using hmem
    exact (take?_eq_none_iff _ _).mp hnone o ho hm.name_eq
  refine ⟨⟨⟨c, hc, hcloses⟩, halone⟩, h.at_places, h.decreasing, ?_⟩
  intro i
  rw [h.mem_iff i, openAt_succ_iff hc]
  simp [halone, hcloses]

/-- A closer takes out its partner, and nothing else. -/
theorem pop (h : StackOf tokens k stack places) {c o : BlockToken} {rest : List BlockToken}
    {depth : Nat} (hc : tokens[k]? = some c) (hcloses : c.isCloser = true)
    (htake : take? c.name stack = some (o, rest, depth)) :
    ∃ i remaining, Matched tokens i k ∧ BlockAt tokens ⟨o, c, depth⟩ (i, k) ∧
      StackOf tokens (k + 1) rest remaining := by
  obtain ⟨above, below, rfl, rfl, rfl, hname, habove⟩ := take?_eq_some htake
  have hat := h.at_places
  rw [List.map_append, List.map_cons] at hat
  obtain ⟨upper, tail, rfl, hupper, htail⟩ := List.map_eq_append_iff.mp hat.symm
  obtain ⟨i, lower, rfl, hi, hlower⟩ := List.map_eq_cons_iff.mp htail
  have hdec := List.pairwise_append.mp h.decreasing
  have hdeci := List.pairwise_cons.mp hdec.2.1
  -- what lies above the taken opener has other names, so it is the last open one of its name
  have hmatched : Matched tokens i k := by
    refine matched_last ((h.mem_iff i).mp (by simp)) hi hc hcloses hname ?_
    intro j p hij hj hp
    have hmem : j ∈ upper := by
      rcases List.mem_append.mp ((h.mem_iff j).mpr hj) with hu | hl
      · exact hu
      · rcases List.mem_cons.mp hl with rfl | hl
        · omega
        · exact absurd (hdeci.1 j hl) (by omega)
    have hpm : some p ∈ above.map some := by
      rw [← hupper]
      exact List.mem_map.mpr ⟨j, hmem, hp⟩
    exact habove p (by simpa using hpm)
  -- the places decrease, so the taken one stands in the stack only once
  have hremaining : ∀ j, j ∈ upper ++ lower ↔ j ∈ upper ++ i :: lower ∧ j ≠ i := by
    intro j
    constructor
    · intro hj
      rcases List.mem_append.mp hj with hu | hl
      · exact ⟨by simp [hu], Nat.ne_of_gt (hdec.2.2 j hu i (by simp))⟩
      · exact ⟨by simp [hl], Nat.ne_of_lt (hdeci.1 j hl)⟩
    · rintro ⟨hj, hne⟩
      simpa [hne] using hj
  refine ⟨i, upper ++ lower, hmatched, ⟨hi, hc, lower, ?_, ?_, ?_⟩, ?_, ?_, ?_⟩
  · exact hdeci.2.imp Nat.ne_of_gt
  · simpa using (congrArg List.length hlower).symm
  · intro j
    rw [← h.mem_iff j]
    constructor
    · intro hj
      exact ⟨hdeci.1 j hj, by simp [hj]⟩
    · rintro ⟨hlt, hj⟩
      rcases List.mem_append.mp hj with hu | hl
      · exact absurd (hdec.2.2 j hu i (by simp)) (by omega)
      · exact (List.mem_cons.mp hl).resolve_left (Nat.ne_of_lt hlt)
  · rw [List.map_append, List.map_append, hupper, hlower]
  · exact List.pairwise_append.mpr
      ⟨hdec.1, hdeci.2, fun a ha b hb => hdec.2.2 a ha b (by simp [hb])⟩
  · intro j
    rw [hremaining j, h.mem_iff j, openAt_succ_iff hc]
    constructor
    · rintro ⟨hopen, hne⟩
      exact Or.inl ⟨hopen, fun hm => hne (hm.opener_unique hmatched)⟩
    · rintro (⟨hopen, hnot⟩ | ⟨-, hcf⟩)
      · exact ⟨hopen, fun he => hnot (he ▸ hmatched)⟩
      · rw [hcloses] at hcf
        cases hcf

end StackOf

/-! ## What one token adds to the roles -/

private theorem succ_le_and_iff {P : Nat → Prop} {k j : Nat} (h : ¬ P k) :
    k + 1 ≤ j ∧ P j ↔ k ≤ j ∧ P j :=
  ⟨fun hj => ⟨Nat.le_of_succ_le hj.1, hj.2⟩,
    fun hj => ⟨Nat.lt_of_le_of_ne hj.1 (fun he => h (he ▸ hj.2)), hj.2⟩⟩

namespace RolesFrom

variable {k : Nat} {p : Pairing} {pairs : List (Nat × Nat)} {closers openers : List Nat}

theorem opener (r : RolesFrom tokens (k + 1) p pairs closers openers) {t : BlockToken}
    (ht : tokens[k]? = some t) (hopens : t.isCloser = false) :
    RolesFrom tokens k p pairs closers openers := by
  refine { r with pairs_iff := fun i j => ?_, closers_iff := fun j => ?_ }
  · rw [r.pairs_iff]
    refine succ_le_and_iff fun hm => ?_
    rw [hm.isCloser ht] at hopens
    cases hopens
  · rw [r.closers_iff]
    refine succ_le_and_iff fun hm => ?_
    obtain ⟨c, hc, hcloses⟩ := hm.closes
    obtain rfl : t = c := Option.some.inj (ht.symm.trans hc)
    rw [hcloses] at hopens
    cases hopens

theorem loneCloser (r : RolesFrom tokens (k + 1) p pairs closers openers) {t : BlockToken}
    (ht : tokens[k]? = some t) (hlone : LoneCloser tokens k) :
    RolesFrom tokens k { p with unmatched := t :: p.unmatched } pairs (k :: closers) openers := by
  refine { r with pairs_iff := fun i j => ?_, unmatched := ?_, closers_increasing := ?_,
                  closers_iff := fun j => ?_ }
  · rw [r.pairs_iff]
    exact succ_le_and_iff (hlone.alone i)
  · rw [List.map_cons, List.map_cons, r.unmatched, ht]
  · exact List.pairwise_cons.mpr
      ⟨fun j hj => ((r.closers_iff j).mp hj).1, r.closers_increasing⟩
  · rw [List.mem_cons, r.closers_iff]
    constructor
    · rintro (rfl | hm)
      · exact ⟨Nat.le_refl j, hlone⟩
      · exact ⟨Nat.le_of_succ_le hm.1, hm.2⟩
    · rintro ⟨hj, hm⟩
      exact (Nat.eq_or_lt_of_le hj).imp Eq.symm fun hlt => ⟨hlt, hm⟩

theorem matched (r : RolesFrom tokens (k + 1) p pairs closers openers) {i : Nat} {b : Block}
    (hm : Matched tokens i k) (hb : BlockAt tokens b (i, k)) :
    RolesFrom tokens k { p with blocks := b :: p.blocks } ((i, k) :: pairs) closers openers := by
  refine { r with blocks := .cons hb r.blocks, pairs_increasing := ?_,
                  pairs_iff := fun h j => ?_, closers_iff := fun j => ?_ }
  · exact List.pairwise_cons.mpr
      ⟨fun q hq => ((r.pairs_iff q.1 q.2).mp hq).1, r.pairs_increasing⟩
  · rw [List.mem_cons, r.pairs_iff, Prod.mk.injEq]
    constructor
    · rintro (⟨rfl, rfl⟩ | hj)
      · exact ⟨Nat.le_refl j, hm⟩
      · exact ⟨Nat.le_of_succ_le hj.1, hj.2⟩
    · rintro ⟨hj, hj'⟩
      rcases Nat.eq_or_lt_of_le hj with rfl | hlt
      · exact Or.inl ⟨hj'.opener_unique hm, rfl⟩
      · exact Or.inr ⟨hlt, hj'⟩
  · rw [r.closers_iff]
    exact succ_le_and_iff fun hl => hl.alone i hm

end RolesFrom

/-! ## What the walk does -/

/-- From any stack of open openers on, the walk gives the remaining places their roles. -/
theorem walk_roles {k : Nat} {rest stack : List BlockToken} {places : List Nat}
    (hrest : tokens.drop k = rest) (hk : k ≤ tokens.length) (h : StackOf tokens k stack places) :
    ∃ pairs closers openers, RolesFrom tokens k (walk rest stack) pairs closers openers := by
  -- on the tokens that are left, with the stack as it is when they come
  induction rest generalizing k stack places with
  | nil =>
    obtain rfl : k = tokens.length :=
      Nat.le_antisymm hk (List.drop_eq_nil_iff.mp hrest)
    refine ⟨[], [], places.reverse, .nil, .nil, fun i j => ?_, rfl, .nil, fun j => ?_, ?_,
      List.pairwise_reverse.mpr h.decreasing, fun i => ?_⟩
    · exact ⟨fun hm => absurd hm List.not_mem_nil,
        fun hm => absurd hm.2.lt_length (Nat.not_lt.mpr hm.1)⟩
    · refine ⟨fun hm => absurd hm List.not_mem_nil, ?_⟩
      rintro ⟨hj, ⟨⟨c, hc, -⟩, -⟩⟩
      exact absurd (List.getElem?_eq_some_iff.mp hc).1 (Nat.not_lt.mpr hj)
    · show stack.reverse.map some = _
      rw [List.map_reverse, List.map_reverse, h.at_places]
    · rw [List.mem_reverse]
      exact h.mem_iff i
  | cons t rest ih =>
    have hlt : k < tokens.length := by
      apply Classical.byContradiction
      intro hge
      rw [List.drop_eq_nil_of_le (Nat.not_lt.mp hge)] at hrest
      cases hrest
    rw [List.drop_eq_getElem_cons hlt] at hrest
    obtain ⟨htok, hdrop⟩ := List.cons.inj hrest
    have ht : tokens[k]? = some t := by rw [List.getElem?_eq_getElem hlt, htok]
    cases hkind : t.isCloser with
    | false =>
      obtain ⟨pairs, closers, openers, r⟩ := ih hdrop hlt (h.push ht hkind)
      rw [walk_opener hkind]
      exact ⟨pairs, closers, openers, r.opener ht hkind⟩
    | true =>
      cases htake : take? t.name stack with
      | none =>
        obtain ⟨hlone, hstack⟩ := h.skip ht hkind htake
        obtain ⟨pairs, closers, openers, r⟩ := ih hdrop hlt hstack
        rw [walk_lone hkind htake]
        exact ⟨pairs, k :: closers, openers, r.loneCloser ht hlone⟩
      | some found =>
        obtain ⟨o, below, depth⟩ := found
        obtain ⟨i, remaining, hmatched, hblock, hstack⟩ := h.pop ht hkind htake
        obtain ⟨pairs, closers, openers, r⟩ := ih hdrop hlt hstack
        rw [walk_matched hkind htake]
        exact ⟨(i, k) :: pairs, closers, openers, r.matched hmatched hblock⟩

/-! ## The roles that a pairing gives -/

variable (tokens) in
/-- What a pairing says about some tokens: its constructs, ordered by their start, stand at the
matched places; what it leaves alone stands, in order, at the places without a partner; and every
place has one role. -/
structure Roles (p : Pairing) (pairs : List (Nat × Nat)) (closers openers : List Nat) : Prop where
  blocks : List.Forall₂ (BlockAt tokens) p.blocks pairs
  sorted : p.blocks.Pairwise (·.start ≤ ·.start)
  pairs_iff : ∀ i j, (i, j) ∈ pairs ↔ Matched tokens i j
  unmatched : p.unmatched.map some = closers.map (tokens[·]?)
  closers_increasing : closers.Pairwise (· < ·)
  closers_iff : ∀ j, j ∈ closers ↔ LoneCloser tokens j
  unclosed : p.unclosed.map some = openers.map (tokens[·]?)
  openers_increasing : openers.Pairwise (· < ·)
  openers_iff : ∀ i, i ∈ openers ↔ LoneOpener tokens i
  once : (pairs.map Prod.fst ++ pairs.map Prod.snd ++ closers ++ openers).Perm
    (List.range tokens.length)

/-- Every place opens or closes a matched pair, or is a lone closer or a lone opener. -/
theorem role_iff (i : Nat) :
    ((∃ j, Matched tokens i j) ∨ (∃ h, Matched tokens h i) ∨ LoneCloser tokens i ∨
      LoneOpener tokens i) ↔ i < tokens.length := by
  constructor
  · rintro (⟨j, hm⟩ | ⟨h, hm⟩ | hl | hl)
    · obtain ⟨o, c, hm⟩ := hm
      exact (List.getElem?_eq_some_iff.mp hm.opener_at).1
    · exact hm.lt_length
    · obtain ⟨c, hc, -⟩ := hl.closes
      exact (List.getElem?_eq_some_iff.mp hc).1
    · exact hl.lt
  · intro hi
    have ht : tokens[i]? = some tokens[i] := List.getElem?_eq_getElem hi
    cases hkind : tokens[i].isCloser with
    | true =>
      by_cases hex : ∃ h, Matched tokens h i
      · exact Or.inr (Or.inl hex)
      · exact Or.inr (Or.inr (Or.inl ⟨⟨_, ht, hkind⟩, fun h hm => hex ⟨h, hm⟩⟩))
    | false =>
      by_cases hex : ∃ j, Matched tokens i j
      · exact Or.inl hex
      · exact Or.inr (Or.inr (Or.inr (loneOpener_iff.mpr
          ⟨⟨_, ht, hkind⟩, fun j hm => hex ⟨j, hm⟩⟩)))

namespace RolesFrom

variable {p : Pairing} {pairs : List (Nat × Nat)} {closers openers : List Nat}

/-- The walk gives no place two roles. -/
theorem nodup (r : RolesFrom tokens 0 p pairs closers openers) :
    (pairs.map Prod.fst ++ pairs.map Prod.snd ++ closers ++ openers).Nodup := by
  have hpair : ∀ q ∈ pairs, Matched tokens q.1 q.2 := fun q hq => ((r.pairs_iff q.1 q.2).mp hq).2
  have hcloser : ∀ j ∈ closers, LoneCloser tokens j := fun j hj => ((r.closers_iff j).mp hj).2
  have hopener : ∀ i ∈ openers, LoneOpener tokens i := fun i hi => (r.openers_iff i).mp hi
  have hfst : (pairs.map Prod.fst).Pairwise (· ≠ ·) := by
    refine List.pairwise_map.mpr (r.pairs_increasing.imp_of_mem ?_)
    intro q s hq hs hlt he
    have hsame := (hpair q hq).closer_unique (he ▸ hpair s hs)
    omega
  have hsnd : (pairs.map Prod.snd).Pairwise (· ≠ ·) :=
    List.pairwise_map.mpr (r.pairs_increasing.imp Nat.ne_of_lt)
  refine List.pairwise_append.mpr ⟨List.pairwise_append.mpr ⟨List.pairwise_append.mpr
    ⟨hfst, hsnd, ?_⟩, r.closers_increasing.imp Nat.ne_of_lt, ?_⟩,
    r.openers_increasing.imp Nat.ne_of_lt, ?_⟩
  -- two roles differ in the kind of their token, or one of them excludes the partner of the other
  · rintro i hi j hj rfl
    obtain ⟨q, hq, rfl⟩ := List.mem_map.mp hi
    obtain ⟨s, hs, he⟩ := List.mem_map.mp hj
    have hkind := (hpair s hs).kindAt_closer
    rw [he, (hpair q hq).kindAt_opener] at hkind
    cases hkind
  · rintro i hi j hj rfl
    rcases List.mem_append.mp hi with hi | hi
    · obtain ⟨q, hq, rfl⟩ := List.mem_map.mp hi
      have hkind := (hcloser _ hj).kindAt
      rw [(hpair q hq).kindAt_opener] at hkind
      cases hkind
    · obtain ⟨q, hq, rfl⟩ := List.mem_map.mp hi
      exact (hcloser _ hj).alone q.1 (hpair q hq)
  · rintro i hi j hj rfl
    have hkind := (hopener i hj).kindAt
    rcases List.mem_append.mp hi with hi | hi
    · rcases List.mem_append.mp hi with hi | hi
      · obtain ⟨q, hq, rfl⟩ := List.mem_map.mp hi
        exact (loneOpener_iff.mp (hopener _ hj)).2 q.2 (hpair q hq)
      · obtain ⟨q, hq, rfl⟩ := List.mem_map.mp hi
        rw [(hpair q hq).kindAt_closer] at hkind
        cases hkind
    · rw [(hcloser i hi).kindAt] at hkind
      cases hkind

/-- The walk leaves no place without a role and gives none twice. -/
theorem once (r : RolesFrom tokens 0 p pairs closers openers) :
    (pairs.map Prod.fst ++ pairs.map Prod.snd ++ closers ++ openers).Perm
      (List.range tokens.length) := by
  refine (List.perm_ext_iff_of_nodup r.nodup List.nodup_range).mpr fun i => ?_
  rw [List.mem_range, ← role_iff i]
  simp only [List.mem_append, List.mem_map, Prod.exists, exists_and_right, exists_eq_right,
    r.pairs_iff, r.closers_iff, r.openers_iff, Nat.zero_le, true_and, or_assoc]

end RolesFrom

/-- From the empty stack on, the walk gives every place its role. -/
theorem walk_tokens_roles (tokens : List BlockToken) :
    ∃ pairs closers openers, RolesFrom tokens 0 (walk tokens []) pairs closers openers :=
  walk_roles rfl (Nat.zero_le _) .empty

/-- What a pairing leaves alone, and the ends of its constructs, are among the tokens. -/
theorem mem_of_mem_map_some {tokens found : List BlockToken} {places : List Nat}
    (h : found.map some = places.map (tokens[·]?)) {t : BlockToken} (ht : t ∈ found) :
    t ∈ tokens := by
  have hsome : some t ∈ places.map (tokens[·]?) := h ▸ List.mem_map_of_mem ht
  obtain ⟨i, -, hi⟩ := List.mem_map.mp hsome
  exact List.mem_of_getElem? hi

theorem mem_of_mem_unmatched {t : BlockToken} (ht : t ∈ (ofTokens tokens).unmatched) :
    t ∈ tokens := by
  obtain ⟨pairs, closers, openers, r⟩ := walk_tokens_roles tokens
  exact mem_of_mem_map_some r.unmatched ht

theorem mem_of_mem_unclosed {t : BlockToken} (ht : t ∈ (ofTokens tokens).unclosed) :
    t ∈ tokens := by
  obtain ⟨pairs, closers, openers, r⟩ := walk_tokens_roles tokens
  exact mem_of_mem_map_some r.unclosed ht

theorem ends_mem {b : Block} (hb : b ∈ (ofTokens tokens).blocks) :
    b.opener ∈ tokens ∧ b.closer ∈ tokens := by
  obtain ⟨pairs, closers, openers, r⟩ := walk_tokens_roles tokens
  obtain ⟨n, hn, rfl⟩ := List.mem_iff_getElem.mp (List.mem_mergeSort.mp hb)
  have hat := r.blocks.get hn (r.blocks.length_eq ▸ hn)
  exact ⟨List.mem_of_getElem? hat.opener, List.mem_of_getElem? hat.closer⟩

/-- **Pairing gives every token its role.**  The constructs stand at the matched places and are
ordered by their start; the closers and the openers without a partner keep the order of the tokens;
and no place is left out or used twice. -/
theorem ofTokens_roles (tokens : List BlockToken) :
    ∃ pairs closers openers, Roles tokens (ofTokens tokens) pairs closers openers := by
  obtain ⟨pairs, closers, openers, r⟩ := walk_tokens_roles tokens
  have hperm := List.mergeSort_perm (walk tokens []).blocks fun a b => a.start ≤ b.start
  obtain ⟨sorted, hsorted, hpairs⟩ := List.perm_comp_forall₂ hperm r.blocks
  refine ⟨sorted, closers, openers, hsorted, ?_, fun i j => ?_, r.unmatched,
    r.closers_increasing, fun j => ?_, r.unclosed, r.openers_increasing, r.openers_iff, ?_⟩
  · have hle : ((walk tokens []).blocks.mergeSort fun a b => a.start ≤ b.start).Pairwise
        fun a b => decide (a.start ≤ b.start) = true :=
      List.pairwise_mergeSort (fun a b c hab hbc => by simp at hab hbc ⊢; omega)
        (fun a b => by simp; omega) _
    exact hle.imp of_decide_eq_true
  · rw [hpairs.mem_iff, r.pairs_iff]
    exact ⟨fun h => h.2, fun h => ⟨Nat.zero_le j, h⟩⟩
  · rw [r.closers_iff]
    exact ⟨fun h => h.2, fun h => ⟨Nat.zero_le j, h⟩⟩
  · refine List.Perm.trans ?_ r.once
    exact (((hpairs.map Prod.fst).append (hpairs.map Prod.snd)).append_right _).append_right _

end Pairing
end TemplateLint
