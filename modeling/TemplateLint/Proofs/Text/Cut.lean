import TemplateLint.Proofs.Text.Occurrences
import TemplateLint.Proofs.Text.Reading

/-!
# Searching a text in two parts

How a pattern is read does not depend on how many characters were passed before (`ways_moved`).  So
where no reading crosses the place at which a text is cut, its matches are those of the first part,
followed by those of the second part moved behind the first (`findAll_append`).
-/
namespace TemplateLint

/-- A place that has been passed more characters before. -/
def Spot.moved (n : Nat) (s : Spot) : Spot := { s with passed := n + s.passed }

/-- The same progress behind more characters. -/
def Progress.moved (n : Nat) (p : Progress) : Progress := { p with spot := p.spot.moved n }

/-- A match whose ends stand elsewhere. -/
def Match.moved (move : Nat → Nat) (m : Match) : Match :=
  { m with start := move m.start, stop := move m.stop }

/-! ## Reading behind more characters -/

theorem runSpots_moved (n : Nat) (accepts : Char → Bool) (passed : Nat) (last : Option Char)
    (rest : Text) :
    runSpots accepts (n + passed) last rest =
      (runSpots accepts passed last rest).map (Spot.moved n) := by
  induction rest generalizing passed last with
  | nil => rfl
  | cons c rest ih =>
    rw [runSpots, runSpots, Nat.add_assoc, ih, List.map_cons]
    cases accepts c <;> rfl

theorem Spot.advance?_moved (n : Nat) (key : Char → Char) (wanted : Text) (s : Spot) :
    (s.moved n).advance? key wanted = (s.advance? key wanted).map (Spot.moved n) := by
  induction wanted generalizing s with
  | nil => rfl
  | cons c wanted ih =>
    obtain ⟨passed, last, rest⟩ := s
    cases rest with
    | nil => rfl
    | cons d rest =>
      have hstep := ih ⟨passed + 1, some d, rest⟩
      unfold Spot.moved at hstep ⊢
      rw [advance?, advance?, ← Nat.add_assoc] at *
      rw [hstep]
      split <;> rfl

namespace Pattern

/-- The places that a run passes, with what the groups have read before. -/
private theorem map_spots_moved (n : Nat) (groups : List Capture) (spots : List Spot) :
    (spots.map (Spot.moved n)).map (Progress.mk · groups) =
      (spots.map (Progress.mk · groups)).map (Progress.moved n) := by
  rw [List.map_map, List.map_map]
  rfl

/-- Reading does not depend on how many characters were passed before. -/
theorem ways_moved (n : Nat) (pattern : Pattern) (p : Progress) :
    ways pattern (p.moved n) = (ways pattern p).map (Progress.moved n) := by
  induction pattern generalizing p with
  | empty | notAfter _ | edge => exact ways_map_of_looks rfl _ rfl
  | ahead _ ih | notAhead _ ih =>
    exact ways_map_of_looks rfl (Progress.moved n) (by rw [holdsAt, holdsAt, ih, List.isEmpty_map])
  | one accepts =>
    obtain ⟨⟨passed, last, rest⟩, groups⟩ := p
    cases rest with
    | nil => rfl
    | cons c rest =>
      show (if accepts c then _ else _) = List.map _ (if accepts c then _ else _)
      cases accepts c <;> rfl
  | seq first second ihf ihs =>
    rw [ways, ways, ihf, List.flatMap_map, List.map_flatMap]
    congr 1
    funext q
    exact ihs q
  | alt first second ihf ihs => rw [ways, ways, ihf, ihs, List.map_append]
  | many least accepts =>
    obtain ⟨⟨passed, last, rest⟩, groups⟩ := p
    show List.map _ ((runSpots accepts (n + passed) last rest).drop least).reverse = _
    rw [runSpots_moved, ← List.map_drop, ← List.map_reverse, map_spots_moved]
    rfl
  | few least accepts =>
    obtain ⟨⟨passed, last, rest⟩, groups⟩ := p
    show List.map _ ((runSpots accepts (n + passed) last rest).drop least) = _
    rw [runSpots_moved, ← List.map_drop, map_spots_moved]
    rfl
  | upTo closing key =>
    obtain ⟨⟨passed, last, rest⟩, groups⟩ := p
    show List.map _ ((runSpots _ (n + passed) last rest).find? _).toList = _
    rw [runSpots_moved, List.find?_map, ways]
    show List.map _ (Option.map _
      (List.find? (fun s : Spot => Spot.startsWith key closing s.rest) _)).toList = _
    cases List.find? (fun s : Spot => Spot.startsWith key closing s.rest)
      (runSpots (fun _ => true) passed last rest) <;> rfl
  | group index body ih =>
    rw [ways, ways, ih, List.map_map, List.map_map]
    congr 1
    funext q
    -- a group keeps a length, which is a difference of places
    show Progress.mk _ (⟨_, _, (n + q.spot.passed) - (n + p.spot.passed)⟩ :: _) = _
    rw [Nat.add_sub_add_left]
    rfl
  | same index key =>
    rw [ways, ways]
    have htext : (p.moved n).textOf? index = p.textOf? index := rfl
    rw [htext]
    cases p.textOf? index with
    | none => rfl
    | some text =>
      show List.map _ ((p.spot.moved n).advance? key text).toList =
        List.map _ (List.map _ (p.spot.advance? key text).toList)
      rw [Spot.advance?_moved]
      cases p.spot.advance? key text <;> rfl

theorem matchAt?_moved (n : Nat) (pattern : Pattern) (s : Spot) :
    pattern.matchAt? (s.moved n) = (pattern.matchAt? s).map (Match.moved (n + ·)) := by
  rw [matchAt?, matchAt?, run_eq_findSome?, run_eq_findSome?]
  have hstart : (⟨s.moved n, []⟩ : Progress) = Progress.moved n ⟨s, []⟩ := rfl
  rw [hstart, ways_moved, List.findSome?_map]
  cases ways pattern ⟨s, []⟩ with
  | nil => rfl
  | cons q more =>
    show some (Match.mk _ _ (List.take ((n + q.spot.passed) - (n + s.passed)) _) _) = _
    rw [Nat.add_sub_add_left]
    rfl

/-- A match ends inside what follows its start. -/
theorem stop_le_of_matchAt? {pattern : Pattern} {s : Spot} {m : Match}
    (h : pattern.matchAt? s = some m) : m.stop ≤ s.passed + s.rest.length := by
  rw [matchAt?, run_eq_findSome?] at h
  obtain ⟨q, hq, hm⟩ := List.exists_of_findSome?_eq_some h
  obtain rfl := Option.some.inj hm
  obtain ⟨read, hreads, -⟩ := ways_reads (fun _ => true) hq
  show q.spot.passed ≤ _
  rw [hreads.passed, hreads.rest, List.length_append]
  show s.passed + _ ≤ _
  omega

/-! ## All matches -/

variable {pattern : Pattern}

/-- Where nothing is read at the end, an empty rest has no match. -/
theorem allFrom_nil (hend : pattern.startsNot none = true) (resume passed : Nat)
    (last : Option Char) : pattern.allFrom resume passed last [] = [] := by
  have hnone : pattern.matchAt? ⟨passed, last, []⟩ = none := by
    rw [matchAt?, run_eq_findSome?, ways_eq_nil (p := ⟨⟨passed, last, []⟩, []⟩) hend]
    rfl
  rw [allFrom, hnone]
  split <;> rfl

/-- It does not matter from which of the places that are already passed a search resumes. -/
theorem allFrom_resume {resume resume' passed : Nat} (h : resume ≤ passed) (h' : resume' ≤ passed)
    (last : Option Char) (rest : Text) :
    pattern.allFrom resume passed last rest = pattern.allFrom resume' passed last rest := by
  induction rest generalizing passed last with
  | nil => rw [allFrom, allFrom, if_pos h, if_pos h']
  | cons c rest ih =>
    rw [allFrom, allFrom, if_pos h, if_pos h', ih (Nat.le_succ_of_le h) (Nat.le_succ_of_le h')]

/-- The character in front matters for a match at the first place only. -/
theorem allFrom_last {resume passed : Nat} {last last' : Option Char} {rest : Text}
    (h : pattern.matchAt? ⟨passed, last, rest⟩ = pattern.matchAt? ⟨passed, last', rest⟩) :
    pattern.allFrom resume passed last rest = pattern.allFrom resume passed last' rest := by
  cases rest with
  | nil => rw [allFrom, allFrom, h]
  | cons c rest => rw [allFrom, allFrom, h]

theorem allFrom_moved (n resume passed : Nat) (last : Option Char) (rest : Text) :
    pattern.allFrom (n + resume) (n + passed) last rest =
      (pattern.allFrom resume passed last rest).map (Match.moved (n + ·)) := by
  induction rest generalizing resume passed last with
  | nil =>
    have hhere := matchAt?_moved n pattern ⟨passed, last, []⟩
    unfold Spot.moved at hhere
    rw [allFrom, allFrom, hhere]
    by_cases hle : resume ≤ passed
    · rw [if_pos (Nat.add_le_add_left hle n), if_pos hle]
      cases pattern.matchAt? ⟨passed, last, []⟩ <;> rfl
    · rw [if_neg (by omega), if_neg hle]
      rfl
  | cons c rest ih =>
    have hhere := matchAt?_moved n pattern ⟨passed, last, c :: rest⟩
    unfold Spot.moved at hhere
    rw [allFrom, allFrom, hhere, Nat.add_assoc]
    by_cases hle : resume ≤ passed
    · rw [if_pos (Nat.add_le_add_left hle n), if_pos hle]
      cases pattern.matchAt? ⟨passed, last, c :: rest⟩ with
      | none => exact ih resume (passed + 1) (some c)
      | some m =>
        have hmax : max (n + m.stop) (n + (passed + 1)) = n + max m.stop (passed + 1) := by omega
        show Match.moved _ m :: allFrom pattern (max (n + m.stop) _) _ _ _ = _
        rw [hmax, ih]
        rfl
    · rw [if_neg (by omega), if_neg hle]
      exact ih resume (passed + 1) (some c)

/-- The search goes through the first part as if nothing followed, and then on from the cut. -/
theorem allFrom_append (hend : pattern.startsNot none = true) {first second : Text}
    (hinside : ∀ passed last rest, rest ≠ [] → rest <:+ first →
      pattern.matchAt? ⟨passed, last, rest ++ second⟩ = pattern.matchAt? ⟨passed, last, rest⟩)
    {resume passed : Nat} (hresume : resume ≤ passed + first.length) (last : Option Char) :
    pattern.allFrom resume passed last (first ++ second) =
      pattern.allFrom resume passed last first ++
        pattern.allFrom (passed + first.length) (passed + first.length) (first.getLast?.or last)
          second := by
  induction first generalizing resume passed last with
  | nil =>
    rw [allFrom_nil hend]
    exact allFrom_resume hresume (Nat.le_refl passed) last second
  | cons c first ih =>
    have hlater : ∀ passed last rest, rest ≠ [] → rest <:+ first →
        pattern.matchAt? ⟨passed, last, rest ++ second⟩ =
          pattern.matchAt? ⟨passed, last, rest⟩ := fun passed last rest hne hsuffix =>
      hinside passed last rest hne (hsuffix.trans (List.suffix_cons c first))
    have hhere := hinside passed last (c :: first) (List.cons_ne_nil c first) (List.suffix_refl _)
    have hlength : passed + (c :: first).length = passed + 1 + first.length := by
      rw [List.length_cons]
      omega
    rw [hlength] at hresume ⊢
    rw [List.cons_append] at hhere ⊢
    rw [allFrom, allFrom, hhere, getLast?_cons_or]
    split
    · next m hm =>
      -- a match of the first part ends in it, so the search resumes at the cut at the latest
      have hstop : m.stop ≤ passed + (c :: first).length := by
        split at hm
        · exact stop_le_of_matchAt? hm
        · cases hm
      rw [ih hlater (by omega) (some c)]
      rfl
    · exact ih hlater hresume (some c)

/-- **A text may be searched in two parts** if no reading crosses the cut: what is read in the first
part is read as if nothing followed, and what is read at the start of the second part is read as if
nothing stood in front. -/
theorem findAll_append (hend : pattern.startsNot none = true) {first second : Text}
    (hinside : ∀ passed last rest, rest ≠ [] → rest <:+ first →
      pattern.matchAt? ⟨passed, last, rest ++ second⟩ = pattern.matchAt? ⟨passed, last, rest⟩)
    (hbehind : ∀ passed, pattern.matchAt? ⟨passed, first.getLast?, second⟩ =
      pattern.matchAt? ⟨passed, none, second⟩) :
    pattern.findAll (first ++ second) =
      pattern.findAll first ++ (pattern.findAll second).map (Match.moved (first.length + ·)) := by
  have hwhole := allFrom_append hend hinside (Nat.zero_le (0 + first.length)) none
  rw [Nat.zero_add, Option.or_none, allFrom_last (hbehind first.length)] at hwhole
  have hmoved : pattern.allFrom (first.length + 0) (first.length + 0) none second = _ :=
    allFrom_moved first.length 0 0 none second
  rw [Nat.add_zero] at hmoved
  rw [findAll, hwhole, hmoved]
  rfl

end Pattern
end TemplateLint
