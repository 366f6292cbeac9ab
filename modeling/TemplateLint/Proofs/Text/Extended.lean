import TemplateLint.Proofs.Text.Cut

/-!
# Reading a text that goes on

What can be read in a text can still be read there when the text goes on behind it, as long as the
pattern only reads characters and no word goes on across the end (`Pattern.ways_extend`).  So a search
through a whole text finds something no later than where a search through a part of it does
(`Pattern.exists_find?`).
-/
namespace TemplateLint

/-- A place in a text that goes on. -/
def Spot.extend (after : Text) (s : Spot) : Spot := { s with rest := s.rest ++ after }

/-- What a group has read in a text that goes on. -/
def Capture.extend (after : Text) (c : Capture) : Capture := { c with origin := c.origin ++ after }

/-- The progress in a text that goes on. -/
def Progress.extend (after : Text) (p : Progress) : Progress :=
  ⟨p.spot.extend after, p.groups.map (Capture.extend after)⟩

/-- A run passes the same places first when the text goes on. -/
theorem runSpots_extend (after : Text) (accepts : Char → Bool) (passed : Nat) (last : Option Char)
    (rest : Text) : (runSpots accepts passed last rest).map (Spot.extend after) <+:
      runSpots accepts passed last (rest ++ after) := by
  induction rest generalizing passed last with
  | nil =>
    refine ⟨(runSpots accepts passed last after).drop 1, ?_⟩
    cases after <;> rfl
  | cons c rest ih =>
    rw [runSpots, List.cons_append, runSpots, List.map_cons]
    refine List.prefix_cons_inj _ |>.mpr ?_
    split
    · exact ih (passed + 1) (some c)
    · exact List.nil_prefix

/-- A run stops at the same places, counted from its start, when the text goes on. -/
theorem mem_drop_runSpots_extend (after : Text) {accepts : Char → Bool} {least passed : Nat}
    {last : Option Char} {rest : Text} {s : Spot}
    (hs : s ∈ (runSpots accepts passed last rest).drop least) :
    s.extend after ∈ (runSpots accepts passed last (rest ++ after)).drop least := by
  have hspots := (runSpots_extend after accepts passed last rest).drop least
  rw [← List.map_drop] at hspots
  exact hspots.subset (List.mem_map_of_mem hs)

/-- Whether a word starts or ends at a place does not change when something that is no word follows
the text. -/
theorem isEdge_append {after : Text} (h : after.head?.any isWord = false) (last : Option Char)
    (rest : Text) : isEdge last (rest ++ after).head? = isEdge last rest.head? := by
  cases rest with
  | nil =>
    rw [List.nil_append, isEdge, isEdge, h]
    rfl
  | cons c rest => rfl

namespace Pattern

variable {after : Text}

/-- The pattern reads on in the same way when the text goes on: it only reads characters, and a word
does not go on behind the end. -/
def ReadsOn (after : Text) : Pattern → Prop
  | empty | one _ | many _ _ | few _ _ | notAfter _ => True
  | seq first second | alt first second => first.ReadsOn after ∧ second.ReadsOn after
  | group _ body => body.ReadsOn after
  | edge => after.head?.any isWord = false
  | _ => False

/-- Every way to read a pattern is still there when the text goes on. -/
theorem ways_extend {pattern : Pattern} (h : pattern.ReadsOn after) {p q : Progress}
    (hq : q ∈ ways pattern p) : q.extend after ∈ ways pattern (p.extend after) := by
  induction pattern generalizing p q with
  | empty | notAfter _ =>
    rw [ways_map_of_looks rfl _ rfl]
    exact List.mem_map_of_mem hq
  | edge =>
    have hsame : edge.holdsAt (p.extend after) = edge.holdsAt p := isEdge_append h _ _
    rw [ways_map_of_looks rfl _ hsame]
    exact List.mem_map_of_mem hq
  | one accepts =>
    obtain ⟨⟨passed, last, rest⟩, groups⟩ := p
    cases rest with
    | nil => cases hq
    | cons c rest =>
      rw [ways] at hq
      split at hq
      · next hc =>
        rw [List.mem_singleton.mp hq]
        show _ ∈ if accepts c then _ else _
        rw [if_pos hc]
        exact List.mem_singleton.mpr rfl
      · cases hq
  | seq first second ihf ihs =>
    obtain ⟨r, hr, hq⟩ := List.mem_flatMap.mp hq
    exact List.mem_flatMap.mpr ⟨r.extend after, ihf h.1 hr, ihs h.2 hq⟩
  | alt first second ihf ihs =>
    rcases List.mem_append.mp hq with hq | hq
    · exact List.mem_append_left _ (ihf h.1 hq)
    · exact List.mem_append_right _ (ihs h.2 hq)
  | many least accepts =>
    obtain ⟨s, hs, rfl⟩ := List.mem_map.mp hq
    have hmem := List.mem_reverse.mpr (mem_drop_runSpots_extend after (List.mem_reverse.mp hs))
    exact List.mem_map.mpr ⟨s.extend after, hmem, rfl⟩
  | few least accepts =>
    obtain ⟨s, hs, rfl⟩ := List.mem_map.mp hq
    exact List.mem_map.mpr ⟨s.extend after, mem_drop_runSpots_extend after hs, rfl⟩
  | group index body ih =>
    obtain ⟨r, hr, rfl⟩ := List.mem_map.mp hq
    exact List.mem_map.mpr ⟨r.extend after, ih h hr, rfl⟩
  | upTo _ _ | ahead _ _ | notAhead _ _ | same _ _ => cases h

/-! ## Searching -/

theorem matchAt?_isSome_iff (pattern : Pattern) (s : Spot) :
    (pattern.matchAt? s).isSome = true ↔ ∃ q, q ∈ ways pattern ⟨s, []⟩ := by
  rw [matchAt?, run_eq_findSome?]
  cases ways pattern ⟨s, []⟩ with
  | nil => simp
  | cons q more => simp

/-- What is read at a place is still read there when the text goes on. -/
theorem matchAt?_extend {pattern : Pattern} (h : pattern.ReadsOn after) {s : Spot}
    (hmatch : (pattern.matchAt? s).isSome = true) :
    (pattern.matchAt? (s.extend after)).isSome = true := by
  obtain ⟨q, hq⟩ := (matchAt?_isSome_iff pattern s).mp hmatch
  exact (matchAt?_isSome_iff pattern _).mpr ⟨q.extend after, ways_extend h hq⟩

/-- A search from a place finds something no later than at any place where the pattern can be read. -/
theorem exists_firstFrom? {pattern : Pattern} {passed k : Nat} {last : Option Char} {rest : Text}
    (hk : k ≤ rest.length)
    (h : (pattern.matchAt? ⟨passed + k, (rest.take k).getLast?.or last, rest.drop k⟩).isSome = true) :
    ∃ m, pattern.firstFrom? passed last rest = some m ∧ m.start ≤ passed + k := by
  induction rest generalizing passed last k with
  | nil =>
    obtain rfl : k = 0 := Nat.le_zero.mp hk
    obtain ⟨m, hm⟩ := Option.isSome_iff_exists.mp h
    refine ⟨m, hm, ?_⟩
    exact Nat.le_of_eq (matchAt?_eq_some hm).1
  | cons c rest ih =>
    rw [firstFrom?]
    cases hhere : pattern.matchAt? ⟨passed, last, c :: rest⟩ with
    | some m =>
      refine ⟨m, rfl, ?_⟩
      rw [(matchAt?_eq_some hhere).1]
      exact Nat.le_add_right passed k
    | none =>
      cases k with
      | zero =>
        -- nothing is read at the first place, so the place that is given is a later one
        have hsome : (pattern.matchAt? ⟨passed, last, c :: rest⟩).isSome = true := h
        rw [hhere] at hsome
        cases hsome
      | succ k =>
        rw [List.take_succ_cons, getLast?_cons_or, List.drop_succ_cons, Nat.add_comm k,
          ← Nat.add_assoc] at h
        obtain ⟨m, hm, hle⟩ := ih (Nat.le_of_succ_le_succ hk) h
        exact ⟨m, hm, by omega⟩

/-- A search through a text finds something no later than at any place where the pattern can be
read. -/
theorem exists_find? {pattern : Pattern} {text : Text} {k : Nat} (hk : k ≤ text.length)
    (h : (pattern.matchAt? ⟨k, (text.take k).getLast?, text.drop k⟩).isSome = true) :
    ∃ m, pattern.find? text = some m ∧ m.start ≤ k := by
  have hplace : (pattern.matchAt? ⟨0 + k, (text.take k).getLast?.or none, text.drop k⟩).isSome =
      true := by
    rw [Nat.zero_add, Option.or_none]
    exact h
  obtain ⟨m, hm, hle⟩ := exists_firstFrom? hk hplace
  exact ⟨m, hm, Nat.zero_add k ▸ hle⟩

end Pattern
end TemplateLint
