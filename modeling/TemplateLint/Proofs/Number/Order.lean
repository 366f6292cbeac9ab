import Mathlib.Data.Int.ConditionallyCompleteOrder
import Mathlib.Order.ConditionallyCompleteLattice.Basic
import TemplateLint.Proofs.Number.Range

/-!
# The order of numbers

Integers and floating-point numbers stand on one line: each has a place on it, counted in units, and
the infinite numbers are its ends (`Number.place?`).  Comparisons compare places (`Number.lt_iff`,
`Number.le_iff`), so they are transitive for every mixture of the two kinds, and an undefined number
compares with nothing.
-/
namespace TemplateLint
namespace Number

theorem unitsPerOne_pos : (0 : Int) < Binary64.unitsPerOne := Int.natCast_pos.mpr (twoTo_pos 1074)

/-- The place of a number in units, between two ends; an undefined number has none. -/
def place? : Number → Option (WithBot (WithTop Int))
  | int n => some ((n * Binary64.unitsPerOne : Int) : WithTop Int)
  | real .nan => none
  | real (.infinite true) => some ⊥
  | real (.infinite false) => some (⊤ : WithTop Int)
  | real (.finite negative units) => some (Binary64.signed negative units : WithTop Int)

/-- The place of one number comes before that of another. -/
def Precedes (x y : Number) : Prop := ∃ a b, x.place? = some a ∧ y.place? = some b ∧ a < b

theorem precedes_iff {x y : Number} {a b : WithBot (WithTop Int)} (ha : x.place? = some a)
    (hb : y.place? = some b) : Precedes x y ↔ a < b := by
  constructor
  · rintro ⟨a', b', ha', hb', h⟩
    rwa [Option.some.inj (ha.symm.trans ha'), Option.some.inj (hb.symm.trans hb')]
  · intro h
    exact ⟨a, b, ha, hb, h⟩

theorem not_precedes_nan (x : Number) : ¬ Precedes x (real .nan) := by
  rintro ⟨a, b, -, hb, -⟩
  cases hb

theorem not_nan_precedes (y : Number) : ¬ Precedes (real .nan) y := by
  rintro ⟨a, b, ha, -, -⟩
  cases ha

theorem not_precedes_lowest (x : Number) : ¬ Precedes x (real (.infinite true)) := by
  rintro ⟨a, b, -, hb, h⟩
  obtain rfl := Option.some.inj hb
  exact not_lt_bot h

theorem not_highest_precedes (y : Number) : ¬ Precedes (real (.infinite false)) y := by
  rintro ⟨a, b, ha, -, h⟩
  obtain rfl := Option.some.inj ha
  exact not_top_lt h

/-- Places between the two ends are in the order of their units. -/
theorem coe_units_lt_iff {m n : Int} :
    ((m : WithTop Int) : WithBot (WithTop Int)) < (n : WithTop Int) ↔ m < n := by
  rw [WithBot.coe_lt_coe, WithTop.coe_lt_coe]

theorem units_lt_top (n : Int) :
    ((n : WithTop Int) : WithBot (WithTop Int)) < ((⊤ : WithTop Int) : WithBot (WithTop Int)) :=
  WithBot.coe_lt_coe.mpr (WithTop.coe_lt_top n)

theorem int_lt_int_iff (m n : Int) : (int m).lt (int n) = true ↔ Precedes (int m) (int n) := by
  rw [precedes_iff rfl rfl, coe_units_lt_iff, Int.mul_lt_mul_right unitsPerOne_pos]
  exact decide_eq_true_iff

theorem int_lt_real_iff (m : Int) (y : Binary64) :
    (int m).lt (real y) = true ↔ Precedes (int m) (real y) := by
  rcases y with ⟨t, n⟩ | ⟨_ | _⟩ | _
  · rw [precedes_iff rfl rfl, coe_units_lt_iff]
    exact decide_eq_true_iff
  · exact iff_of_true rfl ((precedes_iff rfl rfl).mpr (units_lt_top _))
  · exact iff_of_false Bool.false_ne_true (not_precedes_lowest _)
  · exact iff_of_false Bool.false_ne_true (not_precedes_nan _)

theorem real_lt_int_iff (x : Binary64) (n : Int) :
    (real x).lt (int n) = true ↔ Precedes (real x) (int n) := by
  rcases x with ⟨s, m⟩ | ⟨_ | _⟩ | _
  · rw [precedes_iff rfl rfl, coe_units_lt_iff]
    exact decide_eq_true_iff
  · exact iff_of_false Bool.false_ne_true (not_highest_precedes _)
  · exact iff_of_true rfl ((precedes_iff rfl rfl).mpr (WithBot.bot_lt_coe _))
  · exact iff_of_false Bool.false_ne_true (not_nan_precedes _)

theorem real_lt_real_iff (x y : Binary64) :
    (real x).lt (real y) = true ↔ Precedes (real x) (real y) := by
  rcases x with ⟨s, m⟩ | s | _
  · rcases y with ⟨t, n⟩ | ⟨_ | _⟩ | _
    · rw [precedes_iff rfl rfl, coe_units_lt_iff]
      exact decide_eq_true_iff
    · exact iff_of_true rfl ((precedes_iff rfl rfl).mpr (units_lt_top _))
    · exact iff_of_false Bool.false_ne_true (not_precedes_lowest _)
    · exact iff_of_false Bool.false_ne_true (not_precedes_nan _)
  · cases s with
    | false =>
      refine iff_of_false ?_ (not_highest_precedes _)
      cases y <;> exact Bool.false_ne_true
    | true =>
      rcases y with ⟨t, n⟩ | ⟨_ | _⟩ | _
      · exact iff_of_true rfl ((precedes_iff rfl rfl).mpr (WithBot.bot_lt_coe _))
      · exact iff_of_true rfl ((precedes_iff rfl rfl).mpr (WithBot.bot_lt_coe _))
      · exact iff_of_false Bool.false_ne_true (not_precedes_lowest _)
      · exact iff_of_false Bool.false_ne_true (not_precedes_nan _)
  · exact iff_of_false Bool.false_ne_true (not_nan_precedes _)

/-- One number is less than another if its place comes first. -/
theorem lt_iff (x y : Number) : x.lt y = true ↔ Precedes x y := by
  rcases x with m | x <;> rcases y with n | y
  · exact int_lt_int_iff m n
  · exact int_lt_real_iff m y
  · exact real_lt_int_iff x n
  · exact real_lt_real_iff x y

theorem isNan_eq (x : Number) : x.isNan = x.place?.isNone := by
  rcases x with m | (⟨s, m⟩ | ⟨_ | _⟩ | _) <;> rfl

/-- One number is at most another if its place does not come behind. -/
theorem le_iff (x y : Number) :
    x.le y = true ↔ ∃ a b, x.place? = some a ∧ y.place? = some b ∧ a ≤ b := by
  rw [le, isNan_eq, isNan_eq]
  cases hx : x.place? with
  | none => simp
  | some a =>
    cases hy : y.place? with
    | none => simp
    | some b =>
      have hlt : y.lt x = true ↔ b < a := (lt_iff y x).trans (precedes_iff hy hx)
      simp [← Bool.not_eq_true, hlt]

/-- What is less than a number is less than a larger one. -/
theorem lt_of_le_of_lt {x y z : Number} (hxy : x.le y = true) (hyz : y.lt z = true) :
    x.lt z = true := by
  obtain ⟨a, b, ha, hb, hab⟩ := (le_iff x y).mp hxy
  obtain ⟨b', c, hb', hc, hbc⟩ := (lt_iff y z).mp hyz
  obtain rfl := Option.some.inj (hb.symm.trans hb')
  exact (lt_iff x z).mpr ⟨a, c, ha, hc, hab.trans_lt hbc⟩

theorem lt_of_lt_of_le {x y z : Number} (hxy : x.lt y = true) (hyz : y.le z = true) :
    x.lt z = true := by
  obtain ⟨a, b, ha, hb, hab⟩ := (lt_iff x y).mp hxy
  obtain ⟨b', c, hb', hc, hbc⟩ := (le_iff y z).mp hyz
  obtain rfl := Option.some.inj (hb.symm.trans hb')
  exact (lt_iff x z).mpr ⟨a, c, ha, hc, hab.trans_le hbc⟩

theorem le_of_lt {x y : Number} (h : x.lt y = true) : x.le y = true := by
  obtain ⟨a, b, ha, hb, hab⟩ := (lt_iff x y).mp h
  exact (le_iff x y).mpr ⟨a, b, ha, hb, hab.le⟩

theorem lt_irrefl (x : Number) : x.lt x = false := by
  rw [← Bool.not_eq_true, lt_iff]
  rintro ⟨a, b, ha, hb, hab⟩
  obtain rfl := Option.some.inj (ha.symm.trans hb)
  exact hab.false

/-- What is less than a number is defined. -/
theorem isNan_left_of_lt {x y : Number} (h : x.lt y = true) : x.isNan = false := by
  obtain ⟨a, b, ha, -, -⟩ := (lt_iff x y).mp h
  rw [isNan_eq, ha]
  rfl

/-- What is less than a number is less than every defined one that does not lie below that. -/
theorem lt_of_lt_of_not_lt {x y z : Number} (hxy : x.lt y = true) (hzy : ¬ z.lt y = true)
    (hz : z.isNan = false) : x.lt z = true := by
  obtain ⟨a, b, ha, hb, hab⟩ := (lt_iff x y).mp hxy
  rw [isNan_eq, Option.isNone_eq_false_iff] at hz
  obtain ⟨c, hc⟩ := Option.isSome_iff_exists.mp hz
  rw [lt_iff, precedes_iff hc hb, not_lt] at hzy
  exact (lt_iff x z).mpr ⟨a, c, ha, hc, hab.trans_le hzy⟩

/-- What is less than a number is less than the highest one. -/
theorem lt_infinite_of_lt {x y : Number} (h : x.lt y = true) :
    x.lt (real (.infinite false)) = true := by
  obtain ⟨a, b, ha, -, hab⟩ := (lt_iff x y).mp h
  exact (lt_iff x _).mpr ⟨a, _, ha, rfl, hab.trans_le le_top⟩

end Number
end TemplateLint
