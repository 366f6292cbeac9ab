import Mathlib.Data.List.Sort
import TemplateLint.Proofs.Suggestion.Layout

/-!
# The first suggestions by rank

Suggestions are sorted by rank and then cut.  As a list may hold a suggestion twice, what is kept is told
by places: of two places the one whose suggestion ranks higher comes first, and of equal ranks the one
that stands further in front (`Suggestion.Precedes`).  Places in this order come in one list only, so
what is kept and in which order is settled by it (`Suggestion.ranked_stable`).
-/
namespace TemplateLint
namespace Suggestion

/-- A suggestion at its place comes before another one: it ranks higher, or as high and stands further
in front. -/
def Precedes (a b : Suggestion × Nat) : Prop :=
  b.1.rank < a.1.rank ∨ b.1.rank = a.1.rank ∧ a.2 < b.2

/-- How many of some suggestions a limit lets through. -/
def shownCount (limit : Option Nat) (count : Nat) : Nat := limit.elim count (min · count)

theorem shownCount_le (limit : Option Nat) (count : Nat) : shownCount limit count ≤ count := by
  cases limit with
  | none => exact Nat.le_refl count
  | some k => exact Nat.min_le_right k count

/-- A list shows the first of some suggestions by rank: as many as the limit lets through, in their
order, and everything that is left out comes behind all of them. -/
structure ShowsFirst (suggestions : List Suggestion) (limit : Option Nat) (shown : List Suggestion) :
    Prop where
  length_eq : shown.length = shownCount limit suggestions.length
  places : ∃ kept omitted : List (Suggestion × Nat), shown = kept.map Prod.fst ∧
    (kept ++ omitted).Perm suggestions.zipIdx ∧ kept.Pairwise Precedes ∧
      ∀ a ∈ kept, ∀ b ∈ omitted, Precedes a b

/-- The order of the sort. -/
def byRank (s t : Suggestion) : Bool := t.rank ≤ s.rank

theorem not_precedes {a b : Suggestion × Nat} (h : Precedes a b) : ¬ Precedes b a := by
  unfold Precedes at h ⊢
  omega

/-- Between different places the order that keeps equal suggestions in place is this one. -/
theorem precedes_of_zipIdxLE {a b : Suggestion × Nat} (h : List.zipIdxLE byRank a b = true)
    (hne : a.2 ≠ b.2) : Precedes a b := by
  unfold List.zipIdxLE byRank at h
  unfold Precedes
  by_cases hab : b.1.rank ≤ a.1.rank
  · by_cases hba : a.1.rank ≤ b.1.rank
    · simp only [hab, hba, decide_true, if_true, decide_eq_true_eq] at h
      omega
    · omega
  · simp [hab] at h

/-- Sorting puts places in order. -/
theorem pairwise_mergeSort_precedes {places : List (Suggestion × Nat)}
    (hnodup : (places.map Prod.snd).Nodup) :
    (places.mergeSort (List.zipIdxLE byRank)).Pairwise Precedes := by
  have hsorted := List.pairwise_mergeSort
    (List.zipIdxLE_trans (descending_trans Suggestion.rank))
    (List.zipIdxLE_total (descending_total Suggestion.rank)) places
  have hperm := (List.mergeSort_perm places (List.zipIdxLE byRank)).map Prod.snd
  have hne := List.pairwise_map.mp (hperm.nodup_iff.mpr hnodup)
  exact (hsorted.and hne).imp fun h => precedes_of_zipIdxLE h.1 h.2

theorem nodup_places (suggestions : List Suggestion) :
    (suggestions.zipIdx.map Prod.snd).Nodup := by
  rw [List.zipIdx_map_snd]
  exact List.nodup_range'

/-- The places of some suggestions, sorted. -/
def sortedPlaces (suggestions : List Suggestion) : List (Suggestion × Nat) :=
  suggestions.zipIdx.mergeSort (List.zipIdxLE byRank)

theorem map_sortedPlaces (suggestions : List Suggestion) :
    (sortedPlaces suggestions).map Prod.fst = sortByRank suggestions :=
  List.mergeSort_zipIdx

theorem length_sortByRank (suggestions : List Suggestion) :
    (sortByRank suggestions).length = suggestions.length :=
  List.length_mergeSort suggestions

/-- A limit takes the first suggestions by rank. -/
theorem ranked_eq_take (limit : Option Nat) (suggestions : List Suggestion) :
    ranked (limit.map Int.ofNat) suggestions =
      (sortByRank suggestions).take (shownCount limit suggestions.length) := by
  cases limit with
  | none => exact (List.take_of_length_le (Nat.le_of_eq (length_sortByRank suggestions))).symm
  | some k =>
    show (sortByRank suggestions).take k = (sortByRank suggestions).take (min k suggestions.length)
    rw [← length_sortByRank suggestions, List.take_eq_take_min]

theorem showsFirst_ranked (limit : Option Nat) (suggestions : List Suggestion) :
    ShowsFirst suggestions limit (ranked (limit.map Int.ofNat) suggestions) := by
  let count := shownCount limit suggestions.length
  have hcut := List.take_append_drop count (sortedPlaces suggestions)
  have hpairwise := pairwise_mergeSort_precedes (nodup_places suggestions)
  rw [← sortedPlaces, ← hcut, List.pairwise_append] at hpairwise
  rw [ranked_eq_take]
  constructor
  · rw [List.length_take, length_sortByRank, Nat.min_eq_left (shownCount_le _ _)]
  · refine ⟨_, _, ?_, ?_, hpairwise.1, hpairwise.2.2⟩
    · rw [← map_sortedPlaces, List.map_take]
    · rw [hcut]
      exact List.mergeSort_perm _ _

/-- Only one list shows the first suggestions by rank. -/
theorem ShowsFirst.eq_ranked {suggestions shown : List Suggestion} {limit : Option Nat}
    (h : ShowsFirst suggestions limit shown) :
    shown = ranked (limit.map Int.ofNat) suggestions := by
  obtain ⟨kept, omitted, rfl, hperm, hkept, hbehind⟩ := h.places
  -- what is left out, sorted, stands behind what is kept
  let behind := omitted.mergeSort (List.zipIdxLE byRank)
  have homitted : behind.Perm omitted := List.mergeSort_perm _ _
  have hnodup : (omitted.map Prod.snd).Nodup := by
    have hall := (hperm.map Prod.snd).nodup_iff.mpr (nodup_places suggestions)
    rw [List.map_append] at hall
    exact (List.nodup_append.mp hall).2.1
  have hpairwise : (kept ++ behind).Pairwise Precedes := by
    refine List.pairwise_append.mpr ⟨hkept, pairwise_mergeSort_precedes hnodup, ?_⟩
    intro a ha b hb
    exact hbehind a ha b (homitted.mem_iff.mp hb)
  have hsame : kept ++ behind = sortedPlaces suggestions := by
    refine List.Perm.eq_of_pairwise (fun a b _ _ hab hba => absurd hba (not_precedes hab)) hpairwise
      (pairwise_mergeSort_precedes (nodup_places suggestions)) ?_
    exact ((homitted.append_left kept).trans hperm).trans (List.mergeSort_perm _ _).symm
  have hlength := h.length_eq
  rw [List.length_map] at hlength
  rw [ranked_eq_take, ← map_sortedPlaces, ← hsame, ← hlength, ← List.map_take, List.take_left]

/-- Sorting suggestions that are sorted changes nothing. -/
theorem sortByRank_ranked (limit : Option Int) (suggestions : List Suggestion) :
    sortByRank (ranked limit suggestions) = ranked limit suggestions := by
  apply List.mergeSort_of_pairwise
  refine ((sortByRank_pairwise suggestions).sublist (upTo_sublist limit _)).imp fun h => ?_
  exact decide_eq_true h

/-- **Ranking shows the first suggestions by rank**, in an order that keeps suggestions of equal rank as
they stood, and nothing else does.  What is ranked already is not changed by ranking it again. -/
theorem ranked_stable (limit : Option Nat) (suggestions : List Suggestion) :
    (∀ shown, shown = ranked (limit.map Int.ofNat) suggestions ↔
      ShowsFirst suggestions limit shown) ∧
    ranked none (ranked (limit.map Int.ofNat) suggestions) =
      ranked (limit.map Int.ofNat) suggestions ∧
    ranked (limit.map Int.ofNat) (ranked none suggestions) =
      ranked (limit.map Int.ofNat) suggestions := by
  refine ⟨fun shown => ⟨?_, ShowsFirst.eq_ranked⟩, sortByRank_ranked _ suggestions, ?_⟩
  · rintro rfl
    exact showsFirst_ranked limit suggestions
  · exact congrArg (upTo (limit.map Int.ofNat)) (sortByRank_ranked none suggestions)

end Suggestion
end TemplateLint
