import TemplateLint.Number.Binary64

/-!
# Rounding keeps the order

Rounding works on a grid whose step doubles with each power of two above fifty-three bits.  Two
quotients with the same step are rounded in their order; with different steps a power of two lies
between their roundings (`Binary64.roundUnits_mono`).  A number on its own grid is not changed by
rounding (`Binary64.roundUnits_idem`).
-/
namespace TemplateLint

theorem twoTo_add (a b : Nat) : twoTo (a + b) = twoTo a * twoTo b := Nat.pow_add 2 a b

theorem twoTo_pos (a : Nat) : 0 < twoTo a := Nat.pow_pos (by decide)

theorem roundQuotient_le (num den : Nat) : roundQuotient num den ≤ num / den + 1 := by
  rw [roundQuotient]
  split
  · omega
  · split
    · omega
    · have hparity := Nat.mod_lt (num / den) (show 0 < 2 by decide)
      omega

theorem le_roundQuotient (num den : Nat) : num / den ≤ roundQuotient num den := by
  rw [roundQuotient]
  split
  · exact Nat.le_refl _
  · split
    · exact Nat.le_succ _
    · exact Nat.le_add_right _ _

/-- A larger quotient is rounded to no smaller number. -/
theorem roundQuotient_mono {num num' : Nat} (den : Nat) (h : num ≤ num') :
    roundQuotient num den ≤ roundQuotient num' den := by
  rcases Nat.lt_or_ge (num / den) (num' / den) with hlt | hge
  · exact Nat.le_trans (roundQuotient_le num den) (Nat.le_trans hlt (le_roundQuotient num' den))
  · have hsame : num / den = num' / den := Nat.le_antisymm (Nat.div_le_div_right h) hge
    have hrest : num % den ≤ num' % den := by
      have hfirst := Nat.div_add_mod num den
      have hsecond := Nat.div_add_mod num' den
      rw [hsame] at hfirst
      omega
    rw [roundQuotient, roundQuotient, hsame]
    by_cases hlow' : 2 * (num' % den) < den
    · have hlow : 2 * (num % den) < den := by omega
      exact Nat.le_of_eq (by rw [if_pos hlow, if_pos hlow'])
    · rw [if_neg hlow']
      by_cases hlow : 2 * (num % den) < den
      · rw [if_pos hlow]
        split <;> omega
      · rw [if_neg hlow]
        by_cases hhigh : den < 2 * (num % den)
        · have hhigh' : den < 2 * (num' % den) := by omega
          exact Nat.le_of_eq (by rw [if_pos hhigh, if_pos hhigh'])
        · rw [if_neg hhigh]
          split <;> omega

/-- What can be divided is not rounded. -/
theorem roundQuotient_mul_of_dvd {num den : Nat} (h : den ∣ num) :
    roundQuotient num den * den = num := by
  have hrest : num % den = 0 := Nat.mod_eq_zero_of_dvd h
  rcases Nat.eq_zero_or_pos den with rfl | hpos
  · obtain rfl := Nat.eq_zero_of_zero_dvd h
    rfl
  · have hless : 2 * (num % den) < den := by
      rw [hrest]
      exact hpos
    rw [roundQuotient, if_pos hless]
    exact Nat.div_mul_cancel h

namespace Binary64

/-- The step of the grid that a quotient is rounded on. -/
def step (quotient : Nat) : Nat := twoTo (Nat.log2 quotient - 52)

theorem step_pos (quotient : Nat) : 0 < step quotient := twoTo_pos _

theorem roundUnits_eq (num den : Nat) :
    roundUnits num den =
      roundQuotient num (den * step (num / den)) * step (num / den) := by
  rw [roundUnits, step]
  dsimp only
  split
  · next hbits =>
    have hnone : Nat.log2 (num / den) - 52 = 0 := by omega
    have hone : twoTo 0 = 1 := rfl
    rw [hnone, hone, Nat.mul_one, Nat.mul_one]
  · rfl

/-- A quotient has at most fifty-three bits before its step. -/
theorem lt_twoTo_step (quotient : Nat) : quotient < twoTo 53 * step quotient := by
  have hlog : quotient < twoTo (Nat.log2 quotient + 1) := Nat.lt_log2_self
  have hle : twoTo (Nat.log2 quotient + 1) ≤ twoTo (53 + (Nat.log2 quotient - 52)) :=
    Nat.pow_le_pow_right (by decide) (by omega)
  rw [step, ← twoTo_add]
  exact Nat.lt_of_lt_of_le hlog hle

/-- A rounded quotient is at most a number of fifty-four bits before its step. -/
theorem roundQuotient_le_twoTo (num den : Nat) :
    roundQuotient num (den * step (num / den)) ≤ twoTo 53 := by
  have hle := roundQuotient_le num (den * step (num / den))
  have hlt : num / den / step (num / den) < twoTo 53 :=
    (Nat.div_lt_iff_lt_mul (step_pos _)).mpr (lt_twoTo_step _)
  rw [← Nat.div_div_eq_div_mul] at hle
  omega

theorem roundUnits_le_twoTo (num den : Nat) :
    roundUnits num den ≤ twoTo 53 * step (num / den) := by
  rw [roundUnits_eq]
  exact Nat.mul_le_mul_right _ (roundQuotient_le_twoTo num den)

/-- A quotient whose step is more than one is not rounded below its first bit. -/
theorem twoTo_step_le {num den : Nat} (h : 52 < Nat.log2 (num / den)) :
    twoTo 52 * step (num / den) ≤ roundUnits num den := by
  have hne : num / den ≠ 0 := by
    intro hzero
    rw [hzero] at h
    exact absurd h (by decide)
  have hfirst : twoTo 52 * step (num / den) ≤ num / den := by
    have hsum : 52 + (Nat.log2 (num / den) - 52) = Nat.log2 (num / den) := by omega
    rw [step, ← twoTo_add, hsum]
    exact Nat.log2_self_le hne
  have hquotient : twoTo 52 ≤ num / (den * step (num / den)) := by
    rw [← Nat.div_div_eq_div_mul]
    exact (Nat.le_div_iff_mul_le (step_pos _)).mpr hfirst
  rw [roundUnits_eq]
  exact Nat.mul_le_mul_right _ (Nat.le_trans hquotient (le_roundQuotient _ _))

theorem log2_le_of_le {m n : Nat} (h : m ≤ n) : Nat.log2 m ≤ Nat.log2 n := by
  rcases Nat.eq_zero_or_pos m with rfl | hpos
  · exact Nat.zero_le _
  · have hm : m ≠ 0 := by omega
    have hn : n ≠ 0 := by omega
    exact (Nat.le_log2 hn).mpr (Nat.le_trans (Nat.log2_self_le hm) h)

/-- A larger quotient is rounded to no smaller count. -/
theorem roundUnits_mono {num num' : Nat} (den : Nat) (h : num ≤ num') :
    roundUnits num den ≤ roundUnits num' den := by
  have hlog : Nat.log2 (num / den) ≤ Nat.log2 (num' / den) :=
    log2_le_of_le (Nat.div_le_div_right h)
  by_cases hstep : step (num / den) = step (num' / den)
  · rw [roundUnits_eq, roundUnits_eq, hstep]
    exact Nat.mul_le_mul_right _ (roundQuotient_mono _ h)
  · have hbits : Nat.log2 (num / den) - 52 ≠ Nat.log2 (num' / den) - 52 := fun heq =>
      hstep (congrArg twoTo heq)
    -- the grids meet at a power of two, which lies between both roundings
    calc roundUnits num den
        ≤ twoTo 53 * step (num / den) := roundUnits_le_twoTo num den
      _ ≤ twoTo 52 * step (num' / den) := by
          rw [step, step, ← twoTo_add, ← twoTo_add]
          exact Nat.pow_le_pow_right (by decide) (by omega)
      _ ≤ roundUnits num' den := twoTo_step_le (by omega)

/-- A count of at most fifty-three bits before a power of two is on its own grid. -/
theorem roundUnits_of_grid {q : Nat} (e : Nat) (h : q ≤ twoTo 53) :
    roundUnits (q * twoTo e) 1 = q * twoTo e := by
  have hdvd : step (q * twoTo e) ∣ q * twoTo e := by
    rcases Nat.eq_zero_or_pos (q * twoTo e) with hzero | hpos
    · rw [hzero]
      exact Nat.dvd_zero _
    · have hne : q * twoTo e ≠ 0 := by omega
      have hle : q * twoTo e ≤ twoTo (53 + e) := by
        rw [twoTo_add]
        exact Nat.mul_le_mul_right _ h
      have hfirst : twoTo (Nat.log2 (q * twoTo e)) ≤ q * twoTo e := Nat.log2_self_le hne
      have hlog : Nat.log2 (q * twoTo e) ≤ 53 + e :=
        (Nat.pow_le_pow_iff_right (by decide : 1 < 2)).mp (Nat.le_trans hfirst hle)
      rcases Nat.lt_or_ge (Nat.log2 (q * twoTo e)) (53 + e) with hlt | hge
      · have hbits : Nat.log2 (q * twoTo e) - 52 ≤ e := by omega
        exact Nat.dvd_trans (Nat.pow_dvd_pow 2 hbits) (Nat.dvd_mul_left _ _)
      · -- the count is the power of two at which the next grid begins
        have hall : q * twoTo e = twoTo (53 + e) := by
          have hsame : Nat.log2 (q * twoTo e) = 53 + e := Nat.le_antisymm hlog hge
          rw [hsame] at hfirst
          exact Nat.le_antisymm hle hfirst
        rw [step]
        generalize Nat.log2 (q * twoTo e) = bits at hlog
        rw [hall]
        exact Nat.pow_dvd_pow 2 (by omega)
  rw [roundUnits_eq, Nat.div_one, Nat.one_mul]
  exact roundQuotient_mul_of_dvd hdvd

/-- Rounding changes nothing the second time. -/
theorem roundUnits_idem (num den : Nat) : roundUnits (roundUnits num den) 1 = roundUnits num den := by
  have hround := roundUnits_of_grid (Nat.log2 (num / den) - 52) (roundQuotient_le_twoTo num den)
  rw [roundUnits_eq num den]
  exact hround

end Binary64
end TemplateLint
