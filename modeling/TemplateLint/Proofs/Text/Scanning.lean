import TemplateLint.Proofs.Text.Occurrences
import TemplateLint.Proofs.Text.Matches

/-!
# Scanning from left to right

A search for all matches goes through a text once.  A place starts a match exactly if the pattern can be
read there and no earlier match reaches beyond it (`Pattern.mem_findAll_iff`); the matches come in the
order in which they start, and each ends before the next one starts (`Pattern.findAll_pairwise`).
-/
namespace TemplateLint

/-- The place at an offset of a text, reached from the start of the text. -/
theorem Spot.ofOffset_eq {text : Text} {offset : Nat} (h : offset ≤ text.length) :
    ofOffset text offset = ⟨offset, (text.take offset).getLast?, text.drop offset⟩ := by
  rw [ofOffset, List.getLast?_take]
  split
  · rfl
  · rw [List.getElem?_eq_getElem (by omega)]
    rfl

/-- What is asked of the character in front of an offset. -/
theorem Spot.forall_last_ofOffset_iff {text : Text} {offset : Nat} {p : Char → Prop} :
    (∀ c, (ofOffset text offset).last = some c → p c) ↔
      ∀ k c, k + 1 = offset → text[k]? = some c → p c := by
  cases offset with
  | zero => simp [ofOffset]
  | succ k =>
    show (∀ c, text[k]? = some c → p c) ↔ _
    refine ⟨fun h j c hj => ?_, fun h c => h k c rfl⟩
    obtain rfl : j = k := Nat.succ.inj hj
    exact h c

namespace Pattern

variable {pattern : Pattern} {resume passed : Nat} {last : Option Char} {rest : Text} {m : Match}

/-- What is read at a place that lies some characters behind another one. -/
def matchBehind? (pattern : Pattern) (passed : Nat) (last : Option Char) (rest : Text) (k : Nat) :
    Option Match :=
  pattern.matchAt? ⟨passed + k, (rest.take k).getLast?.or last, rest.drop k⟩

@[simp] theorem matchBehind?_zero (passed : Nat) (last : Option Char) (rest : Text) :
    pattern.matchBehind? passed last rest 0 = pattern.matchAt? ⟨passed, last, rest⟩ := rfl

theorem matchBehind?_succ (passed : Nat) (last : Option Char) (c : Char) (rest : Text) (k : Nat) :
    pattern.matchBehind? passed last (c :: rest) (k + 1) =
      pattern.matchBehind? (passed + 1) (some c) rest k := by
  rw [matchBehind?, List.take_succ_cons, getLast?_cons_or, List.drop_succ_cons, Nat.add_comm k,
    ← Nat.add_assoc]
  rfl

theorem start_of_matchBehind? {k : Nat} (h : pattern.matchBehind? passed last rest k = some m) :
    m.start = passed + k :=
  (matchAt?_eq_some h).1

/-! ## One step of a search -/

section Step

variable {c : Char}

/-- A match at the place is taken, and the search resumes behind it. -/
theorem allFrom_cons_of_match (hresume : resume ≤ passed)
    (hmatch : pattern.matchAt? ⟨passed, last, c :: rest⟩ = some m) :
    pattern.allFrom resume passed last (c :: rest) =
      m :: pattern.allFrom (max m.stop (passed + 1)) (passed + 1) (some c) rest := by
  rw [allFrom, if_pos hresume, hmatch]

/-- A place before the one from which the search resumes, or without a match, is passed over. -/
theorem allFrom_cons_of_none
    (hnone : resume ≤ passed → pattern.matchAt? ⟨passed, last, c :: rest⟩ = none) :
    pattern.allFrom resume passed last (c :: rest) =
      pattern.allFrom resume (passed + 1) (some c) rest := by
  rw [allFrom]
  by_cases hresume : resume ≤ passed
  · rw [if_pos hresume, hnone hresume]
  · rw [if_neg hresume]

/-- A search takes a match at its place or passes over the place. -/
theorem allFrom_cons_cases (pattern : Pattern) (resume passed : Nat) (last : Option Char) (c : Char)
    (rest : Text) :
    (∃ m, resume ≤ passed ∧ pattern.matchAt? ⟨passed, last, c :: rest⟩ = some m) ∨
      (resume ≤ passed → pattern.matchAt? ⟨passed, last, c :: rest⟩ = none) := by
  cases pattern.matchAt? ⟨passed, last, c :: rest⟩ with
  | none => exact Or.inr fun _ => rfl
  | some m => exact (Nat.lt_or_ge passed resume).symm.imp (⟨m, ·, rfl⟩) fun hlt hle => by omega

end Step

/-! ## All matches -/

/-- Every match is read where it starts, and the search may resume there. -/
theorem exists_place_of_mem_allFrom (h : m ∈ pattern.allFrom resume passed last rest) :
    ∃ k ≤ rest.length, resume ≤ passed + k ∧
      pattern.matchBehind? passed last rest k = some m := by
  induction rest generalizing resume passed last with
  | nil =>
    rw [allFrom] at h
    split at h
    · next hresume => exact ⟨0, Nat.le_refl 0, hresume, Option.mem_toList.mp h⟩
    · cases h
  | cons c rest ih =>
    -- a match that is found later stands one place further, whatever the search resumes at
    have hlater : ∀ {resume}, m ∈ pattern.allFrom resume (passed + 1) (some c) rest →
        ∃ k ≤ (c :: rest).length, resume ≤ passed + k ∧
          pattern.matchBehind? passed last (c :: rest) k = some m := by
      intro resume hm
      obtain ⟨k, hk, hresume, hmatch⟩ := ih hm
      refine ⟨k + 1, Nat.succ_le_succ hk, by omega, ?_⟩
      rwa [matchBehind?_succ]
    rcases allFrom_cons_cases pattern resume passed last c rest with ⟨here, hresume, hhere⟩ | hnone
    · rw [allFrom_cons_of_match hresume hhere] at h
      rcases List.mem_cons.mp h with rfl | hm
      · exact ⟨0, Nat.zero_le _, hresume, hhere⟩
      · obtain ⟨k, hk, hbehind, hmatch⟩ := hlater hm
        exact ⟨k, hk, by omega, hmatch⟩
    · rw [allFrom_cons_of_none hnone] at h
      exact hlater h

theorem start_of_mem_allFrom (h : m ∈ pattern.allFrom resume passed last rest) :
    resume ≤ m.start ∧ passed ≤ m.start := by
  obtain ⟨k, -, hresume, hmatch⟩ := exists_place_of_mem_allFrom h
  rw [start_of_matchBehind? hmatch]
  exact ⟨hresume, Nat.le_add_right passed k⟩

/-- The matches come one behind the other. -/
theorem allFrom_pairwise (pattern : Pattern) (resume passed : Nat) (last : Option Char)
    (rest : Text) : (pattern.allFrom resume passed last rest).Pairwise fun m later =>
      m.start < later.start ∧ m.stop ≤ later.start := by
  induction rest generalizing resume passed last with
  | nil =>
    rw [allFrom]
    split
    · cases pattern.matchAt? ⟨passed, last, []⟩ with
      | none => exact .nil
      | some m => exact List.pairwise_singleton _ m
    · exact .nil
  | cons c rest ih =>
    rcases allFrom_cons_cases pattern resume passed last c rest with ⟨here, hresume, hhere⟩ | hnone
    · rw [allFrom_cons_of_match hresume hhere]
      refine List.pairwise_cons.mpr ⟨fun later hlater => ?_, ih _ _ _⟩
      have hbehind := (start_of_mem_allFrom hlater).1
      have hstart : here.start = passed := (matchAt?_eq_some hhere).1
      exact ⟨by omega, by omega⟩
    · rw [allFrom_cons_of_none hnone]
      exact ih _ _ _

/-- A place at which the pattern can be read starts a match, unless an earlier match reaches beyond
it. -/
theorem mem_allFrom_of_place {k : Nat} (hk : k ≤ rest.length) (hresume : resume ≤ passed + k)
    (hmatch : pattern.matchBehind? passed last rest k = some m)
    (hearlier : ∀ earlier ∈ pattern.allFrom resume passed last rest, earlier.start < passed + k →
      earlier.stop ≤ passed + k) : m ∈ pattern.allFrom resume passed last rest := by
  induction rest generalizing resume passed last k with
  | nil =>
    obtain rfl : k = 0 := Nat.le_zero.mp hk
    have hfree : resume ≤ passed := hresume
    rw [allFrom, if_pos hfree]
    exact Option.mem_toList.mpr hmatch
  | cons c rest ih =>
    rcases allFrom_cons_cases pattern resume passed last c rest with ⟨here, hfree, hhere⟩ | hnone
    · rw [allFrom_cons_of_match hfree hhere] at hearlier ⊢
      cases k with
      | zero =>
        obtain rfl := Option.some.inj (hhere.symm.trans hmatch)
        exact List.mem_cons_self
      | succ k =>
        have hstart : here.start = passed := (matchAt?_eq_some hhere).1
        have hstop := hearlier here List.mem_cons_self (by omega)
        rw [matchBehind?_succ] at hmatch
        refine List.mem_cons_of_mem here (ih (Nat.le_of_succ_le_succ hk) (by omega) hmatch ?_)
        intro earlier hmem hlt
        have hle := hearlier earlier (List.mem_cons_of_mem here hmem) (by omega)
        omega
    · rw [allFrom_cons_of_none hnone] at hearlier ⊢
      cases k with
      | zero =>
        rw [matchBehind?_zero, hnone hresume] at hmatch
        cases hmatch
      | succ k =>
        rw [matchBehind?_succ] at hmatch
        refine ih (Nat.le_of_succ_le_succ hk) (by omega) hmatch fun earlier hmem hlt => ?_
        have hle := hearlier earlier hmem (by omega)
        omega

/-- **The matches of a text come one behind the other.** -/
theorem findAll_pairwise (pattern : Pattern) (text : Text) :
    (pattern.findAll text).Pairwise fun m later => m.start < later.start ∧ m.stop ≤ later.start :=
  allFrom_pairwise pattern 0 0 none text

/-- Of two matches the one that starts first ends before the other one starts. -/
theorem stop_le_start {text : Text} {later : Match} (hm : m ∈ pattern.findAll text)
    (hlater : later ∈ pattern.findAll text) (h : m.start < later.start) : m.stop ≤ later.start := by
  have hpairwise := List.pairwise_iff_getElem.mp (findAll_pairwise pattern text)
  obtain ⟨i, hi, rfl⟩ := List.mem_iff_getElem.mp hm
  obtain ⟨j, hj, rfl⟩ := List.mem_iff_getElem.mp hlater
  rcases Nat.lt_trichotomy i j with hij | rfl | hji
  · exact (hpairwise i j hi hj hij).2
  · exact absurd h (Nat.lt_irrefl _)
  · exact absurd h (Nat.lt_asymm (hpairwise j i hj hi hji).1)

theorem matchBehind?_start (pattern : Pattern) {text : Text} {k : Nat} (hk : k ≤ text.length) :
    pattern.matchBehind? 0 none text k = pattern.matchAt? (Spot.ofOffset text k) := by
  rw [matchBehind?, Spot.ofOffset_eq hk, Option.or_none, Nat.zero_add]

/-- **What a scan from left to right finds**: whatever can be read at its place, where no earlier match
reaches beyond the place. -/
theorem mem_findAll_iff {text : Text} : m ∈ pattern.findAll text ↔
    m.start ≤ text.length ∧ pattern.matchAt? (Spot.ofOffset text m.start) = some m ∧
      ∀ earlier ∈ pattern.findAll text, earlier.start < m.start → earlier.stop ≤ m.start := by
  constructor
  · intro h
    obtain ⟨k, hk, -, hmatch⟩ := exists_place_of_mem_allFrom h
    have hstart : m.start = k := by rw [start_of_matchBehind? hmatch, Nat.zero_add]
    subst hstart
    rw [matchBehind?_start pattern hk] at hmatch
    exact ⟨hk, hmatch, fun earlier hearlier hlt => stop_le_start hearlier h hlt⟩
  · rintro ⟨hk, hmatch, hearlier⟩
    rw [← matchBehind?_start pattern hk] at hmatch
    refine mem_allFrom_of_place hk (Nat.zero_le _) hmatch fun earlier hmem hlt => ?_
    rw [Nat.zero_add] at hlt ⊢
    exact hearlier earlier hmem hlt

end Pattern
end TemplateLint
