import TemplateLint.Proofs.Number.Order

/-!
# Numbers that are not negative

A sum does not fall below one of its terms when the other one is not negative (`Binary64.Rounded.add`),
and cutting digits keeps the order (`Binary64.Rounded.roundPlaces_le`), because rounding keeps it.
-/
namespace TemplateLint
namespace Binary64

/-- A number that is not negative and that rounding does not change. -/
inductive Rounded : Binary64 → Prop where
  | finite {units : Nat} (h : roundUnits units 1 = units) : Rounded (finite false units)
  | infinite : Rounded (infinite false)

theorem finite_le_finite {m n : Nat} (h : m ≤ n) :
    (Number.real (finite false m)).le (.real (finite false n)) = true := by
  refine (Number.le_iff _ _).mpr ⟨_, _, rfl, rfl, ?_⟩
  exact WithBot.coe_le_coe.mpr (WithTop.coe_le_coe.mpr (Int.ofNat_le.mpr h))

theorem Rounded.le_infinite {x : Binary64} (hx : x.Rounded) :
    (Number.real x).le (.real (.infinite false)) = true := by
  cases hx with
  | finite h => exact (Number.le_iff _ _).mpr ⟨_, _, rfl, rfl, le_top⟩
  | infinite => exact (Number.le_iff _ _).mpr ⟨_, _, rfl, rfl, le_refl _⟩

/-- A rounded count makes a number that rounding does not change. -/
theorem rounded_ofUnits (num den : Nat) : (ofUnits false (roundUnits num den)).Rounded := by
  rw [ofUnits]
  split
  · exact .infinite
  · exact .finite (roundUnits_idem num den)

/-- The number with the larger count is not smaller. -/
theorem ofUnits_le {m n : Nat} (hmn : m ≤ n) :
    (Number.real (ofUnits false m)).le (.real (ofUnits false n)) = true := by
  rw [ofUnits, ofUnits]
  by_cases hm : unitsBound ≤ m
  · rw [if_pos hm, if_pos (Nat.le_trans hm hmn)]
    exact Rounded.infinite.le_infinite
  · rw [if_neg hm]
    by_cases hn : unitsBound ≤ n
    · rw [if_pos hn]
      exact (Number.le_iff _ _).mpr ⟨_, _, rfl, rfl, le_top⟩
    · rw [if_neg hn]
      exact finite_le_finite hmn

/-- A number is not above one that is made of a larger count. -/
theorem le_ofUnits {m n : Nat} (hm : (finite false m).Rounded) (hmn : m ≤ n) :
    (Number.real (finite false m)).le (.real (ofUnits false n)) = true := by
  rw [ofUnits]
  split
  · exact hm.le_infinite
  · exact finite_le_finite hmn

/-- What is not negative is infinite or has a count that is not negative. -/
theorem eq_of_nonneg {t : Binary64} (h : (Number.int 0).le (.real t) = true) :
    t = infinite false ∨ ∃ s n, t = finite s n ∧ 0 ≤ signed s n := by
  obtain ⟨a, b, ha, hb, hab⟩ := (Number.le_iff _ _).mp h
  obtain rfl := Option.some.inj ha
  rcases t with ⟨s, n⟩ | ⟨_ | _⟩ | _
  · right
    obtain rfl := Option.some.inj hb
    have hunits := WithTop.coe_le_coe.mp (WithBot.coe_le_coe.mp hab)
    rw [Int.zero_mul] at hunits
    exact ⟨s, n, rfl, hunits⟩
  · exact Or.inl rfl
  · obtain rfl := Option.some.inj hb
    exact absurd (le_bot_iff.mp hab) (WithBot.coe_ne_bot)
  · cases hb

/-- A sum of numbers that are not negative is one, and not less than its first term. -/
theorem Rounded.add {x t : Binary64} (hx : x.Rounded) (ht : (Number.int 0).le (.real t) = true) :
    (x.add t).Rounded ∧ (Number.real x).le (.real (x.add t)) = true := by
  cases hx with
  | infinite =>
    rcases eq_of_nonneg ht with rfl | ⟨s, n, rfl, -⟩
    · exact ⟨.infinite, Rounded.infinite.le_infinite⟩
    · exact ⟨.infinite, Rounded.infinite.le_infinite⟩
  | @finite m hm =>
    rcases eq_of_nonneg ht with rfl | ⟨s, n, rfl, hn⟩
    · exact ⟨.infinite, (Rounded.finite hm).le_infinite⟩
    · have hsum : Binary64.add (.finite false m) (.finite s n) =
          ofSigned false (m + signed s n) := rfl
      rw [hsum, ofSigned]
      by_cases hzero : (m : Int) + signed s n = 0
      · have hm0 : m = 0 := by omega
        rw [if_pos hzero, hm0]
        exact ⟨.finite rfl, finite_le_finite (Nat.le_refl 0)⟩
      · have hpos : decide ((m : Int) + signed s n < 0) = false := by
          simp only [decide_eq_false_iff_not, Int.not_lt]
          omega
        have hmore : m ≤ ((m : Int) + signed s n).natAbs := by omega
        rw [if_neg hzero, hpos]
        -- the first term is its own rounding, and the sum is rounded behind it
        have hle : m ≤ roundUnits ((m : Int) + signed s n).natAbs 1 := by
          calc m = roundUnits m 1 := hm.symm
            _ ≤ roundUnits ((m : Int) + signed s n).natAbs 1 := roundUnits_mono 1 hmore
        exact ⟨rounded_ofUnits _ 1, le_ofUnits (.finite hm) hle⟩

theorem roundPlaces_finite (places units : Nat) :
    (finite false units).roundPlaces places =
      ofUnits false (roundUnits (roundQuotient (units * tenTo places) unitsPerOne * unitsPerOne)
        (tenTo places)) := by
  rw [roundPlaces, ofQuotient]

/-- Rounding to some places keeps the order. -/
theorem Rounded.roundPlaces_le {x y : Binary64} (hx : x.Rounded) (hy : y.Rounded)
    (h : (Number.real x).le (.real y) = true) (places : Nat) :
    (Number.real (x.roundPlaces places)).le (.real (y.roundPlaces places)) = true := by
  cases hx with
  | infinite =>
    cases hy with
    | infinite => exact Rounded.infinite.le_infinite
    | finite hn =>
      obtain ⟨a, b, ha, hb, hab⟩ := (Number.le_iff _ _).mp h
      obtain rfl := Option.some.inj ha
      obtain rfl := Option.some.inj hb
      exact absurd (top_le_iff.mp (WithBot.coe_le_coe.mp hab)) (WithTop.coe_ne_top)
  | @finite m hm =>
    cases hy with
    | infinite =>
      rw [roundPlaces_finite]
      exact (rounded_ofUnits _ _).le_infinite
    | @finite n hn =>
      obtain ⟨a, b, ha, hb, hab⟩ := (Number.le_iff _ _).mp h
      obtain rfl := Option.some.inj ha
      obtain rfl := Option.some.inj hb
      have hmn : m ≤ n :=
        Int.ofNat_le.mp (WithTop.coe_le_coe.mp (WithBot.coe_le_coe.mp hab))
      rw [roundPlaces_finite, roundPlaces_finite]
      refine ofUnits_le (roundUnits_mono _ (Nat.mul_le_mul_right _ ?_))
      exact roundQuotient_mono _ (Nat.mul_le_mul_right _ hmn)

end Binary64
end TemplateLint
