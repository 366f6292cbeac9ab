import TemplateLint.Proofs.Text.Extended
import TemplateLint.Proofs.Text.Forward
import TemplateLint.Proofs.Text.Scanning

/-!
# The first match

A search for one match stops at the first place at which the pattern can be read
(`Pattern.find?_eq_some_iff`), which is where the first of all matches starts
(`Pattern.find?_eq_head?`).  A search for all matches passes over places at which nothing can be read
(`Pattern.findAll_pass`), so it finds the first match and then what a search behind it finds
(`Pattern.findAll_of_find?`).
-/
namespace TemplateLint
namespace Pattern

variable {pattern : Pattern} {resume passed : Nat} {last : Option Char} {rest text : Text} {m : Match}

/-- Where a search stops, the pattern can be read, and at no place before. -/
theorem firstFrom?_first (h : pattern.firstFrom? passed last rest = some m) :
    ∃ k ≤ rest.length, pattern.matchBehind? passed last rest k = some m ∧
      ∀ j < k, pattern.matchBehind? passed last rest j = none := by
  induction rest generalizing passed last with
  | nil => exact ⟨0, Nat.le_refl 0, h, fun j hj => absurd hj (Nat.not_lt_zero j)⟩
  | cons c rest ih =>
    rw [firstFrom?] at h
    cases hhere : pattern.matchAt? ⟨passed, last, c :: rest⟩ with
    | some found =>
      rw [hhere] at h
      exact ⟨0, Nat.zero_le _, hhere.trans h, fun j hj => absurd hj (Nat.not_lt_zero j)⟩
    | none =>
      rw [hhere] at h
      obtain ⟨k, hk, hmatch, hnone⟩ := ih h
      refine ⟨k + 1, Nat.succ_le_succ hk, (matchBehind?_succ ..).trans hmatch, fun j hj => ?_⟩
      cases j with
      | zero => exact hhere
      | succ j => exact (matchBehind?_succ ..).trans (hnone j (Nat.lt_of_succ_lt_succ hj))

/-- **A search stops at the first place at which the pattern can be read.** -/
theorem find?_eq_some_iff : pattern.find? text = some m ↔ m.start ≤ text.length ∧
    pattern.matchAt? (Spot.ofOffset text m.start) = some m ∧
      ∀ j < m.start, pattern.matchAt? (Spot.ofOffset text j) = none := by
  have hfirst : ∀ {m}, pattern.find? text = some m → m.start ≤ text.length ∧
      pattern.matchAt? (Spot.ofOffset text m.start) = some m ∧
        ∀ j < m.start, pattern.matchAt? (Spot.ofOffset text j) = none := by
    intro m h
    obtain ⟨k, hk, hmatch, hnone⟩ := firstFrom?_first h
    obtain rfl : m.start = k := by rw [start_of_matchBehind? hmatch, Nat.zero_add]
    refine ⟨hk, (matchBehind?_start pattern hk).symm.trans hmatch, fun j hj => ?_⟩
    exact (matchBehind?_start pattern (Nat.le_trans (Nat.le_of_lt hj) hk)).symm.trans (hnone j hj)
  constructor
  · exact hfirst
  · rintro ⟨hle, hmatch, hnone⟩
    have hsome := Option.isSome_iff_exists.mpr ⟨m, hmatch⟩
    rw [Spot.ofOffset_eq hle] at hsome
    obtain ⟨found, hfound, hstart⟩ := exists_find? hle hsome
    obtain ⟨-, hmatch', -⟩ := hfirst hfound
    rcases Nat.lt_or_eq_of_le hstart with hlt | heq
    · rw [hnone _ hlt] at hmatch'
      cases hmatch'
    · rw [heq, hmatch] at hmatch'
      rw [hfound, hmatch']

theorem firstFrom?_eq_head? (hresume : resume ≤ passed) (last : Option Char) (rest : Text) :
    pattern.firstFrom? passed last rest = (pattern.allFrom resume passed last rest).head? := by
  induction rest generalizing passed last with
  | nil =>
    rw [firstFrom?, allFrom, if_pos hresume]
    cases pattern.matchAt? ⟨passed, last, []⟩ <;> rfl
  | cons c rest ih =>
    rw [firstFrom?]
    cases hhere : pattern.matchAt? ⟨passed, last, c :: rest⟩ with
    | some found => rw [allFrom_cons_of_match hresume hhere, List.head?_cons]
    | none =>
      rw [allFrom_cons_of_none fun _ => hhere]
      exact ih (Nat.le_succ_of_le hresume) (some c)

/-- What a search finds first is the first of all matches. -/
theorem find?_eq_head? (pattern : Pattern) (text : Text) :
    pattern.find? text = (pattern.findAll text).head? :=
  firstFrom?_eq_head? (Nat.le_refl 0) none text

/-- No match in front of the first one that passes a test passes it. -/
theorem not_of_start_lt {test : Match → Bool} {earlier : Match}
    (h : (pattern.findAll text).find? test = some m) (hearlier : earlier ∈ pattern.findAll text)
    (hlt : earlier.start < m.start) : ¬ test earlier = true := by
  obtain ⟨-, front, back, hall, hfront⟩ := List.find?_eq_some_iff_append.mp h
  have hpairwise := findAll_pairwise pattern text
  rw [hall] at hearlier hpairwise
  -- what starts in front of the match stands in front of it in the list
  rcases List.mem_append.mp hearlier with hin | hin
  · have hfails := hfront earlier hin
    rw [Bool.not_eq_true'] at hfails
    exact Bool.eq_false_iff.mp hfails
  · rcases List.mem_cons.mp hin with rfl | hin
    · exact absurd hlt (Nat.lt_irrefl _)
    · have hbehind := List.pairwise_cons.mp (List.pairwise_append.mp hpairwise).2.1
      exact absurd (hbehind.1 earlier hin).1 (Nat.lt_asymm hlt)

/-- Places at which nothing can be read are passed over. -/
theorem allFrom_pass {skipped : Text}
    (hnone : ∀ k < skipped.length, pattern.matchBehind? passed last (skipped ++ rest) k = none) :
    pattern.allFrom resume passed last (skipped ++ rest) =
      pattern.allFrom resume (passed + skipped.length) (skipped.getLast?.or last) rest := by
  induction skipped generalizing passed last with
  | nil => rfl
  | cons c skipped ih =>
    have hhere : pattern.matchAt? ⟨passed, last, c :: (skipped ++ rest)⟩ = none :=
      hnone 0 (Nat.zero_lt_succ _)
    have hlater := @ih (passed + 1) (some c) fun k hk =>
      (matchBehind?_succ ..).symm.trans (hnone (k + 1) (Nat.succ_lt_succ hk))
    rw [List.cons_append, allFrom_cons_of_none fun _ => hhere, hlater, getLast?_cons_or,
      List.length_cons, Nat.add_comm skipped.length, ← Nat.add_assoc]

/-- A text in whose front nothing can be read has the matches of what follows. -/
theorem findAll_pass {skipped : Text} (hnone : ∀ k < skipped.length,
      pattern.matchAt? (Spot.ofOffset (skipped ++ rest) k) = none) :
    pattern.findAll (skipped ++ rest) =
      pattern.allFrom 0 skipped.length skipped.getLast? rest := by
  have hpass := @allFrom_pass pattern 0 0 none rest skipped fun k hk => by
    rw [matchBehind?_start pattern, hnone k hk]
    rw [List.length_append]
    omega
  rwa [Nat.zero_add, Option.or_none] at hpass

/-- **One step of a search for all matches**: the first match, and then what a search behind it finds. -/
theorem findAll_of_find? {front read back : Text} (h : pattern.find? (front ++ read ++ back) = some m)
    (hstart : m.start = front.length) (hstop : m.stop = front.length + read.length) (hread : read ≠ []) :
    pattern.findAll (front ++ read ++ back) =
      m :: pattern.allFrom m.stop m.stop (front ++ read).getLast? back := by
  obtain ⟨hle, hmatch, hnone⟩ := find?_eq_some_iff.mp h
  rw [Spot.ofOffset_eq hle, hstart, List.append_assoc, List.take_left, List.drop_left] at hmatch
  rw [List.append_assoc] at hnone ⊢
  rw [findAll_pass (hstart ▸ hnone), allFrom_of_matchAt? hmatch hstop hread (Nat.zero_le _), hstop,
    List.getLast?_append]

/-- Behind a place a search goes on as if the text started there, unless the character in front
matters. -/
theorem allFrom_eq_moved (hlast : ∀ passed last last',
      pattern.matchAt? ⟨passed, last, rest⟩ = pattern.matchAt? ⟨passed, last', rest⟩)
    (hresume : resume ≤ passed) (last : Option Char) :
    pattern.allFrom resume passed last rest =
      (pattern.findAll rest).map (Match.moved (passed + ·)) := by
  rw [allFrom_resume hresume (Nat.le_refl passed), allFrom_last (hlast passed last none)]
  exact allFrom_moved passed 0 0 none rest

end Pattern
end TemplateLint
