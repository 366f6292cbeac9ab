import TemplateLint.Block.Pairing
import TemplateLint.Proofs.Block.Balanced

/-!
# Which ends belong together

Two places of a token list are matched if the first opens and the second closes a construct of one
name, and the tokens of that name between them are balanced.  This says nothing about how a partner is
found.  A place has at most one partner (`Matched.closer_unique`, `Matched.opener_unique`), constructs of
one name do not interleave (`MatchedAt.closer_lt`), and when a closer comes it belongs to the last opener
of its name that has no partner yet (`matched_last`).
-/
namespace TemplateLint
namespace Pairing

variable (tokens : List BlockToken)

/-- The word that the tokens of a name make from one place up to another. -/
def wordBetween (name : Text) (i j : Nat) : List Bool :=
  (((tokens.drop i).take (j - i)).filter (·.name = name)).map (·.isCloser)

/-- The opener at one place and the closer at another belong together. -/
structure MatchedAt (i j : Nat) (opener closer : BlockToken) : Prop where
  lt : i < j
  opener_at : tokens[i]? = some opener
  closer_at : tokens[j]? = some closer
  opens : opener.isCloser = false
  closes : closer.isCloser = true
  name_eq : opener.name = closer.name
  balanced : Balanced (wordBetween tokens closer.name (i + 1) j)

/-- The ends at two places belong together. -/
def Matched (i j : Nat) : Prop := ∃ opener closer, MatchedAt tokens i j opener closer

/-- The opener at a place has no partner in front of another place. -/
structure OpenAt (k i : Nat) : Prop where
  lt : i < k
  opens : ∃ opener, tokens[i]? = some opener ∧ opener.isCloser = false
  alone : ∀ j < k, ¬ Matched tokens i j

/-- A closer without a partner. -/
structure LoneCloser (j : Nat) : Prop where
  closes : ∃ closer, tokens[j]? = some closer ∧ closer.isCloser = true
  alone : ∀ i, ¬ Matched tokens i j

/-- An opener without a partner. -/
def LoneOpener (i : Nat) : Prop := OpenAt tokens tokens.length i

variable {tokens}

/-! ## Words between places -/

theorem wordBetween_self (name : Text) (i : Nat) : wordBetween tokens name i i = [] := by
  simp [wordBetween]

theorem wordBetween_append (name : Text) {i k j : Nat} (hik : i ≤ k) (hkj : k ≤ j) :
    wordBetween tokens name i j = wordBetween tokens name i k ++ wordBetween tokens name k j := by
  have hsplit : j - i = (k - i) + (j - k) := by omega
  have hdrop : (tokens.drop i).drop (k - i) = tokens.drop k := by
    rw [List.drop_drop, Nat.add_sub_cancel' hik]
  rw [wordBetween, wordBetween, wordBetween, hsplit, List.take_add, hdrop, List.filter_append,
    List.map_append]

/-- The word from a place on starts with the token there, if the token has the name. -/
theorem wordBetween_cons (name : Text) {i j : Nat} {t : BlockToken} (ht : tokens[i]? = some t)
    (hij : i < j) :
    wordBetween tokens name i j =
      (if t.name = name then [t.isCloser] else []) ++ wordBetween tokens name (i + 1) j := by
  obtain ⟨hi, hget⟩ := List.getElem?_eq_some_iff.mp ht
  have hone : j - i = (j - (i + 1)) + 1 := by omega
  rw [wordBetween, wordBetween, List.drop_eq_getElem_cons hi, hget, hone, List.take_succ_cons]
  by_cases hn : t.name = name
  · rw [List.filter_cons_of_pos (by simpa using hn), if_pos hn]
    rfl
  · rw [List.filter_cons_of_neg (by simpa using hn), if_neg hn]
    rfl

/-! ## Partners are unique -/

/-- The word behind an opener up to a later place goes on behind its closer. -/
theorem MatchedAt.wordBetween_eq {i j k : Nat} {o c : BlockToken} (h : MatchedAt tokens i j o c)
    (hjk : j < k) :
    wordBetween tokens c.name (i + 1) k =
      wordBetween tokens c.name (i + 1) j ++ true :: wordBetween tokens c.name (j + 1) k := by
  rw [wordBetween_append c.name h.lt (Nat.le_of_lt hjk), wordBetween_cons c.name h.closer_at hjk,
    if_pos rfl, h.closes]
  rfl

theorem not_matched_of_lt {i j k : Nat} (hj : Matched tokens i j) (hjk : j < k) :
    ¬ Matched tokens i k := by
  obtain ⟨o, c, hj⟩ := hj
  rintro ⟨o', c', hk⟩
  obtain rfl : o = o' := Option.some.inj (hj.opener_at.symm.trans hk.opener_at)
  have hname : c'.name = c.name := hk.name_eq.symm.trans hj.name_eq
  have hbal := hk.balanced
  rw [hname, hj.wordBetween_eq hjk] at hbal
  exact hj.balanced.not_append_closer _ hbal

/-- An opener belongs to at most one closer. -/
theorem Matched.closer_unique {i j k : Nat} (hj : Matched tokens i j) (hk : Matched tokens i k) :
    j = k := by
  rcases Nat.lt_trichotomy j k with h | h | h
  · exact absurd hk (not_matched_of_lt hj h)
  · exact h
  · exact absurd hj (not_matched_of_lt hk h)

theorem not_matched_of_between {h i j : Nat} (hi : Matched tokens i j) (hhi : h < i) :
    ¬ Matched tokens h j := by
  obtain ⟨o, c, hi⟩ := hi
  rintro ⟨o', c', hh⟩
  obtain rfl : c = c' := Option.some.inj (hi.closer_at.symm.trans hh.closer_at)
  have hbal := hh.balanced
  rw [wordBetween_append c.name hhi (Nat.le_of_lt hi.lt),
    wordBetween_cons c.name hi.opener_at hi.lt, if_pos hi.name_eq, hi.opens] at hbal
  exact Balanced.not_append_opener _ hi.balanced hbal

/-- A closer belongs to at most one opener. -/
theorem Matched.opener_unique {h i j : Nat} (hh : Matched tokens h j) (hi : Matched tokens i j) :
    h = i := by
  rcases Nat.lt_trichotomy h i with hlt | heq | hlt
  · exact absurd hh (not_matched_of_between hi hlt)
  · exact heq
  · exact absurd hi (not_matched_of_between hh hlt)

/-- Of two constructs of one name the one that starts inside the other ends inside it. -/
theorem MatchedAt.closer_lt {i j k l : Nat} {o c o' c' : BlockToken} (h : MatchedAt tokens i j o c)
    (h' : MatchedAt tokens k l o' c') (hname : c.name = c'.name) (hik : i < k) (hkj : k < j) :
    l < j := by
  apply Nat.lt_of_not_le
  intro hle
  rcases Nat.eq_or_lt_of_le hle with rfl | hjl
  · have hsame := Matched.opener_unique ⟨o, c, h⟩ ⟨o', c', h'⟩
    omega
  · have hbal := h.balanced
    rw [hname, wordBetween_append c'.name hik (Nat.le_of_lt hkj),
      wordBetween_cons c'.name h'.opener_at hkj, if_pos h'.name_eq, h'.opens] at hbal
    have hbal' := h'.balanced
    rw [wordBetween_append c'.name hkj (Nat.le_of_lt hjl), wordBetween_cons c'.name h.closer_at hjl,
      if_pos hname, h.closes] at hbal'
    exact hbal.not_interleaved hbal'

/-! ## The last open opener -/

/-- Where every opener of a name has a partner in front of `k`, and no closer of the name ends a
balanced word from `s` on, the tokens of the name are balanced. -/
theorem balanced_wordBetween {name : Text} {s k : Nat} (hsk : s ≤ k) (hk : k ≤ tokens.length)
    (hopen : ∀ i o, s ≤ i → i < k → tokens[i]? = some o → o.isCloser = false → o.name = name →
      ∃ j < k, Matched tokens i j)
    (hclose : ∀ j c, s ≤ j → j < k → tokens[j]? = some c → c.isCloser = true → c.name = name →
      ¬ Balanced (wordBetween tokens name s j)) :
    Balanced (wordBetween tokens name s k) := by
  -- on the length of the word: an opener at its start is skipped together with its partner
  induction hn : k - s using Nat.strongRecOn generalizing s with
  | ind n ih =>
    rcases Nat.eq_or_lt_of_le hsk with rfl | hlt
    · rw [wordBetween_self]
      exact .nil
    · obtain ⟨t, ht⟩ : ∃ t, tokens[s]? = some t :=
        ⟨_, List.getElem?_eq_getElem (Nat.lt_of_lt_of_le hlt hk)⟩
      rw [wordBetween_cons name ht hlt]
      by_cases hname : t.name = name
      · cases hkind : t.isCloser with
        | true =>
          -- nothing stands in front of this closer, and nothing is balanced
          exact absurd (by rw [wordBetween_self]; exact .nil)
            (hclose s t (Nat.le_refl s) hlt ht hkind hname)
        | false =>
          obtain ⟨j, hjk, o, c, hj⟩ := hopen s t (Nat.le_refl s) hlt ht hkind hname
          obtain rfl : t = o := Option.some.inj (ht.symm.trans hj.opener_at)
          have hcname : c.name = name := hj.name_eq.symm.trans hname
          have hsplit : ∀ m, j < m → wordBetween tokens name s m =
              false :: wordBetween tokens name (s + 1) j ++
                true :: wordBetween tokens name (j + 1) m := by
            intro m hm
            rw [wordBetween_cons name ht (Nat.lt_trans hj.lt hm), if_pos hname, hkind,
              ← hcname, hj.wordBetween_eq hm]
            rfl
          have hinner : Balanced (wordBetween tokens name (s + 1) j) := hcname ▸ hj.balanced
          have hrest : Balanced (wordBetween tokens name (j + 1) k) := by
            have hlt' := hj.lt
            refine ih (k - (j + 1)) (by omega) hjk ?_ ?_ rfl
            · intro i o hi
              exact hopen i o (by omega)
            · intro m d hm hmk hd hdc hdn hbal
              refine hclose m d (by omega) hmk hd hdc hdn ?_
              rw [hsplit m hm]
              exact hinner.nest hbal
          have hwhole := hinner.nest hrest
          rw [← hsplit k hjk, wordBetween_cons name ht hlt, if_pos hname, hkind] at hwhole
          simpa [hname] using hwhole
      · rw [if_neg hname, List.nil_append]
        refine ih (k - (s + 1)) (by omega) hlt ?_ ?_ rfl
        · intro i o hi
          exact hopen i o (by omega)
        · intro j c hj hjk hc hcc hcn hbal
          refine hclose j c (by omega) hjk hc hcc hcn ?_
          rwa [wordBetween_cons name ht (by omega), if_neg hname, List.nil_append]

/-- A closer belongs to the last opener of its name that is still open. -/
theorem matched_last {i k : Nat} {o c : BlockToken} (hi : OpenAt tokens k i)
    (ho : tokens[i]? = some o) (hc : tokens[k]? = some c) (hcc : c.isCloser = true)
    (hname : o.name = c.name)
    (hlast : ∀ h p, i < h → OpenAt tokens k h → tokens[h]? = some p → p.name ≠ c.name) :
    Matched tokens i k := by
  obtain ⟨hk, -⟩ := List.getElem?_eq_some_iff.mp hc
  obtain ⟨o', ho', hopens⟩ := hi.opens
  obtain rfl : o = o' := Option.some.inj (ho.symm.trans ho')
  refine ⟨o, c, hi.lt, ho, hc, hopens, hcc, hname, ?_⟩
  refine balanced_wordBetween hi.lt (Nat.le_of_lt hk) ?_ ?_
  -- an opener between them that stayed open would be a later one
  · intro h p hh hhk hp hpo hpn
    apply Classical.byContradiction
    intro hnone
    have hopen : OpenAt tokens k h :=
      ⟨hhk, ⟨p, hp, hpo⟩, fun j hj hm => hnone ⟨j, hj, hm⟩⟩
    exact hlast h p hh hopen hp hpn
  -- a closer behind a balanced word would belong to the opener itself
  · intro j d hj hjk hd hdc hdn hbal
    refine hi.alone j hjk ⟨o, d, hj, ho, hd, hopens, hdc, hname.trans hdn.symm, ?_⟩
    rwa [hdn]

/-- An opener is open up to its closer. -/
theorem Matched.openAt {i j : Nat} (h : Matched tokens i j) : OpenAt tokens j i := by
  obtain ⟨o, c, hm⟩ := id h
  refine ⟨hm.lt, ⟨o, hm.opener_at, hm.opens⟩, ?_⟩
  intro k hk hik
  exact absurd (h.closer_unique hik) (by omega)

end Pairing
end TemplateLint
