import TemplateLint.Text.Search

/-!
# Where matches stand

A match found in a text stands where it says: its text is what the document goes on with there
(`mem_findAll`, `find?_eq_some`).  Which character can stand at its start is read off the pattern:
`startsNot` decides that a pattern cannot be read where a given character, or the end, comes next.
-/
namespace TemplateLint
namespace Pattern

/-- The pattern only looks around: it reads nothing and keeps nothing. -/
def looks : Pattern → Bool
  | empty | ahead _ | notAhead _ | notAfter _ | edge => true
  | _ => false

/-- What a pattern that only looks around demands of a place. -/
def holdsAt : Pattern → Progress → Bool
  | ahead body, p => !(ways body p).isEmpty
  | notAhead body, p => (ways body p).isEmpty
  | notAfter refused, p => !p.spot.last.any refused
  | edge, p => isEdge p.spot.last p.spot.rest.head?
  | _, _ => true

/-- A pattern that only looks around gives back the progress that it was given, where it holds. -/
theorem ways_of_looks {pattern : Pattern} (h : pattern.looks = true) (p : Progress) :
    ways pattern p = if pattern.holdsAt p then [p] else [] := by
  cases pattern with
  | empty => rfl
  | ahead body => cases hways : (ways body p).isEmpty <;> simp [ways, holdsAt, hways]
  | notAhead body => cases hways : (ways body p).isEmpty <;> simp [ways, holdsAt, hways]
  | notAfter refused => cases hlast : p.spot.last.any refused <;> simp [ways, holdsAt, hlast]
  | edge => rfl
  | _ => cases h

theorem eq_of_looks {pattern : Pattern} (h : pattern.looks = true) {p q : Progress}
    (hq : q ∈ ways pattern p) : q = p := by
  rw [ways_of_looks h] at hq
  split at hq
  · exact List.mem_singleton.mp hq
  · cases hq

/-- If a pattern that only looks around holds in the same way at a place that stands for another, it is
read there in the same way. -/
theorem ways_map_of_looks {pattern : Pattern} (h : pattern.looks = true) (f : Progress → Progress)
    {p : Progress} (hsame : pattern.holdsAt (f p) = pattern.holdsAt p) :
    ways pattern (f p) = (ways pattern p).map f := by
  rw [ways_of_looks h, ways_of_looks h, hsame]
  split
  · rfl
  · rfl

/-- The pattern reads no character, whatever stands there. -/
def zeroWidth : Pattern → Bool
  | empty | ahead _ | notAhead _ | notAfter _ | edge => true
  | seq first second | alt first second => first.zeroWidth && second.zeroWidth
  | group _ body => body.zeroWidth
  | _ => false

/-- The pattern cannot be read where the given character, or else the end, comes next. -/
def startsNot (next : Option Char) : Pattern → Bool
  | one accepts => !next.any accepts
  | seq first second => first.startsNot next || (first.zeroWidth && second.startsNot next)
  | alt first second => first.startsNot next && second.startsNot next
  | many least accepts | few least accepts => decide (0 < least) && !next.any accepts
  | group _ body | ahead body => body.startsNot next
  | _ => false

/-- A way to read a pattern without width ends where it starts. -/
theorem spot_eq_of_zeroWidth {pattern : Pattern} (h : pattern.zeroWidth = true) {p q : Progress}
    (hq : q ∈ ways pattern p) : q.spot = p.spot := by
  induction pattern generalizing p q with
  | empty | ahead _ _ | notAhead _ _ | notAfter _ | edge => rw [eq_of_looks rfl hq]
  | seq first second ihf ihs =>
    rw [zeroWidth, Bool.and_eq_true] at h
    obtain ⟨r, hr, hq⟩ := List.mem_flatMap.mp hq
    exact (ihs h.2 hq).trans (ihf h.1 hr)
  | alt first second ihf ihs =>
    rw [zeroWidth, Bool.and_eq_true] at h
    rcases List.mem_append.mp hq with hq | hq
    · exact ihf h.1 hq
    · exact ihs h.2 hq
  | group index body ih =>
    obtain ⟨r, hr, rfl⟩ := List.mem_map.mp hq
    have hspot : r.spot = p.spot := ih h hr
    exact hspot
  | one _ | many _ _ | few _ _ | upTo _ _ | same _ _ => cases h

/-- A run whose first character is refused does not leave its place. -/
theorem runSpots_of_refused {accepts : Char → Bool} {passed : Nat} {last : Option Char}
    {rest : Text} (h : rest.head?.any accepts = false) :
    runSpots accepts passed last rest = [⟨passed, last, rest⟩] := by
  cases rest with
  | nil => rfl
  | cons c rest =>
    have hc : accepts c = false := h
    rw [runSpots, hc]
    rfl

/-- There is no way to read the pattern where it cannot start. -/
theorem ways_eq_nil {pattern : Pattern} {p : Progress}
    (h : pattern.startsNot p.spot.rest.head? = true) : ways pattern p = [] := by
  induction pattern generalizing p with
  | one accepts =>
    obtain ⟨⟨passed, last, rest⟩, groups⟩ := p
    cases rest with
    | nil => rfl
    | cons c rest =>
      have hc : accepts c = false := by simpa [startsNot] using h
      simp [ways, hc]
  | seq first second ihf ihs =>
    rw [startsNot, Bool.or_eq_true, Bool.and_eq_true] at h
    rw [ways]
    -- the second part matters where the first one reads nothing
    rcases h with h | ⟨hzero, h⟩
    · rw [ihf h]
      rfl
    · refine List.flatMap_eq_nil_iff.mpr fun q hq => ihs ?_
      rw [spot_eq_of_zeroWidth hzero hq]
      exact h
  | alt first second ihf ihs =>
    rw [startsNot, Bool.and_eq_true] at h
    rw [ways, ihf h.1, ihs h.2]
    rfl
  | many least accepts =>
    obtain ⟨⟨passed, last, rest⟩, groups⟩ := p
    rw [startsNot, Bool.and_eq_true, decide_eq_true_eq, Bool.not_eq_true'] at h
    rw [ways, runSpots_of_refused h.2, List.drop_eq_nil_of_le h.1]
    rfl
  | few least accepts =>
    obtain ⟨⟨passed, last, rest⟩, groups⟩ := p
    rw [startsNot, Bool.and_eq_true, decide_eq_true_eq, Bool.not_eq_true'] at h
    rw [ways, runSpots_of_refused h.2, List.drop_eq_nil_of_le h.1]
    rfl
  | group _ body ih | ahead body ih =>
    rw [ways, ih h]
    rfl
  | empty | upTo _ _ | notAhead _ _ | notAfter _ | edge | same _ _ => cases h

/-! ## Matches -/

/-- A match stands at a place of a text: the text goes on with it there. -/
structure FoundIn (pattern : Pattern) (text : Text) (m : Match) : Prop where
  start_le : m.start ≤ text.length
  reads : m.text <+: text.drop m.start
  starts : ∀ next, pattern.startsNot next = true → (text.drop m.start).head? ≠ next

theorem matchAt?_eq_some {pattern : Pattern} {spot : Spot} {m : Match}
    (h : pattern.matchAt? spot = some m) :
    m.start = spot.passed ∧ m.text <+: spot.rest ∧
      ∀ next, pattern.startsNot next = true → spot.rest.head? ≠ next := by
  rw [matchAt?, run_eq_findSome?] at h
  obtain ⟨q, hq, hm⟩ := List.exists_of_findSome?_eq_some h
  obtain rfl := Option.some.inj hm
  refine ⟨rfl, List.take_prefix _ _, ?_⟩
  rintro next hnext rfl
  rw [ways_eq_nil (p := ⟨spot, []⟩) hnext] at hq
  cases hq

/-- The first match from a place on stands at that place or behind it. -/
theorem firstFrom?_eq_some {pattern : Pattern} {passed : Nat} {last : Option Char} {rest : Text}
    {m : Match} (h : pattern.firstFrom? passed last rest = some m) :
    ∃ k last', k ≤ rest.length ∧
      pattern.matchAt? ⟨passed + k, last', rest.drop k⟩ = some m := by
  induction rest generalizing passed last with
  | nil => exact ⟨0, last, Nat.le_refl 0, h⟩
  | cons c rest ih =>
    rw [firstFrom?] at h
    split at h
    · next found hfound =>
      obtain rfl := Option.some.inj h
      exact ⟨0, last, Nat.zero_le _, hfound⟩
    · obtain ⟨k, last', hk, hmatch⟩ := ih h
      refine ⟨k + 1, last', Nat.succ_le_succ hk, ?_⟩
      rw [Nat.add_right_comm, Nat.add_assoc] at hmatch
      exact hmatch

/-- Every match from a place on stands at that place or behind it. -/
theorem mem_allFrom {pattern : Pattern} {resume passed : Nat} {last : Option Char} {rest : Text}
    {m : Match} (h : m ∈ pattern.allFrom resume passed last rest) :
    ∃ k last', k ≤ rest.length ∧
      pattern.matchAt? ⟨passed + k, last', rest.drop k⟩ = some m := by
  induction rest generalizing resume passed last with
  | nil =>
    rw [allFrom] at h
    split at h
    · exact ⟨0, last, Nat.le_refl 0, Option.mem_toList.mp h⟩
    · cases h
  | cons c rest ih =>
    -- the search goes on one place further, whatever it resumes at
    have hlater : ∀ resume, m ∈ pattern.allFrom resume (passed + 1) (some c) rest →
        ∃ k last', k ≤ (c :: rest).length ∧
          pattern.matchAt? ⟨passed + k, last', (c :: rest).drop k⟩ = some m := by
      intro resume hm
      obtain ⟨k, last', hk, hmatch⟩ := ih hm
      refine ⟨k + 1, last', Nat.succ_le_succ hk, ?_⟩
      rw [Nat.add_right_comm, Nat.add_assoc] at hmatch
      exact hmatch
    rw [allFrom] at h
    split at h
    · next found hfound =>
      rcases List.mem_cons.mp h with rfl | hm
      · split at hfound
        · exact ⟨0, last, Nat.zero_le _, hfound⟩
        · cases hfound
      · exact hlater _ hm
    · exact hlater _ h

/-- At most one match starts at each place. -/
theorem length_allFrom_le (pattern : Pattern) (resume passed : Nat) (last : Option Char)
    (rest : Text) : (pattern.allFrom resume passed last rest).length ≤ rest.length + 1 := by
  induction rest generalizing resume passed last with
  | nil =>
    rw [allFrom]
    split
    · cases pattern.matchAt? ⟨passed, last, []⟩ with
      | none => exact Nat.zero_le _
      | some m => exact Nat.le_refl 1
    · exact Nat.zero_le _
  | cons c rest ih =>
    rw [allFrom]
    split
    · exact Nat.succ_le_succ (ih _ _ _)
    · exact Nat.le_succ_of_le (ih _ _ _)

theorem countIn_le (pattern : Pattern) (text : Text) : pattern.countIn text ≤ text.length + 1 :=
  length_allFrom_le pattern 0 0 none text

/-- A match at a place of a text stands there. -/
private theorem foundIn_of_matchAt? {pattern : Pattern} {text : Text} {k : Nat}
    {last : Option Char} {m : Match} (hk : k ≤ text.length)
    (h : pattern.matchAt? ⟨0 + k, last, text.drop k⟩ = some m) : FoundIn pattern text m := by
  obtain ⟨hstart, hreads, hnext⟩ := matchAt?_eq_some h
  obtain rfl : m.start = k := by rw [hstart, Nat.zero_add]
  exact ⟨hk, hreads, hnext⟩

/-- **The matches of a text stand where they say.** -/
theorem mem_findAll {pattern : Pattern} {text : Text} {m : Match} (h : m ∈ pattern.findAll text) :
    FoundIn pattern text m := by
  obtain ⟨k, last, hk, hmatch⟩ := mem_allFrom h
  exact foundIn_of_matchAt? hk hmatch

theorem find?_eq_some {pattern : Pattern} {text : Text} {m : Match}
    (h : pattern.find? text = some m) : FoundIn pattern text m := by
  obtain ⟨k, last, hk, hmatch⟩ := firstFrom?_eq_some h
  exact foundIn_of_matchAt? hk hmatch

end Pattern
end TemplateLint
