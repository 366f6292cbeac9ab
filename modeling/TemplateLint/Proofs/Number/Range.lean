import TemplateLint.Proofs.Answers
import TemplateLint.Proofs.Number.Rounding

/-!
# Numbers in range

An integer can be converted exactly if its size is below `sizeBound` (`Number.toReal_int_answers_iff`).
From there on arithmetic with floating-point numbers stays among them and always has an answer: a number
that is too large becomes infinite, and no sum or product brings it back (`Number.combine_of_isFinite`).
So a computation of sums and products has a finite answer exactly if the result is finite when whatever
is too large is taken for infinite.
-/
namespace TemplateLint

/-- The first size of an integer for which the nearest number is not finite: it lies half a step below
the power of two at which the finite numbers end. -/
def sizeBound : Nat := twoTo 1024 - twoTo 970

namespace Binary64

/-- The size stands at the border: it is rounded out of the finite counts, and its predecessor is not. -/
theorem roundUnits_sizeBound : unitsBound ≤ roundUnits (sizeBound * unitsPerOne) 1 ∧
    roundUnits ((sizeBound - 1) * unitsPerOne) 1 < unitsBound := by
  decide +kernel

/-- An integer keeps its count below the end of the finite ones exactly if it is not too large. -/
theorem roundUnits_lt_iff (num : Nat) :
    roundUnits (num * unitsPerOne) 1 < unitsBound ↔ num < sizeBound := by
  obtain ⟨hout, hin⟩ := roundUnits_sizeBound
  constructor
  · intro hlt
    refine Nat.lt_of_not_le fun hge => ?_
    have hmono := roundUnits_mono 1 (Nat.mul_le_mul_right unitsPerOne hge)
    exact absurd (Nat.le_trans hout hmono) (Nat.not_le.mpr hlt)
  · intro hlt
    have hmono := roundUnits_mono 1 (Nat.mul_le_mul_right unitsPerOne (Nat.le_sub_one_of_lt hlt))
    exact Nat.lt_of_le_of_lt hmono hin

/-- A number that is defined and not infinite. -/
inductive IsFinite : Binary64 → Prop where
  | intro (negative : Bool) (units : Nat) : IsFinite (finite negative units)

theorem not_isFinite_infinite (negative : Bool) : ¬ (infinite negative).IsFinite := nofun

theorem not_isFinite_nan : ¬ nan.IsFinite := nofun

theorem ofUnits_isFinite_iff {negative : Bool} {units : Nat} :
    (ofUnits negative units).IsFinite ↔ units < unitsBound := by
  rw [ofUnits]
  split
  · next hle => exact iff_of_false (not_isFinite_infinite _) (Nat.not_lt.mpr hle)
  · next hlt => exact iff_of_true (.intro _ _) (Nat.lt_of_not_le hlt)

theorem neg_isFinite_iff {x : Binary64} : x.neg.IsFinite ↔ x.IsFinite := by
  cases x with
  | finite s m => exact iff_of_true (.intro _ _) (.intro _ _)
  | infinite s => exact iff_of_false (not_isFinite_infinite _) (not_isFinite_infinite _)
  | nan => exact iff_of_false not_isFinite_nan not_isFinite_nan

/-- A finite sum has finite terms. -/
theorem isFinite_of_add {x y : Binary64} (h : (x.add y).IsFinite) : x.IsFinite ∧ y.IsFinite := by
  cases x with
  | finite s m =>
    cases y with
    | finite t n => exact ⟨.intro s m, .intro t n⟩
    | infinite t => exact absurd h (not_isFinite_infinite _)
    | nan => exact absurd h not_isFinite_nan
  | infinite s =>
    cases y with
    | finite t n => exact absurd h (not_isFinite_infinite _)
    | infinite t =>
      rw [add] at h
      split at h
      · exact absurd h (not_isFinite_infinite _)
      · exact absurd h not_isFinite_nan
    | nan => exact absurd h not_isFinite_nan
  | nan => exact absurd h not_isFinite_nan

/-- A finite difference has finite terms. -/
theorem isFinite_of_sub {x y : Binary64} (h : (x.sub y).IsFinite) : x.IsFinite ∧ y.IsFinite := by
  obtain ⟨hx, hy⟩ := isFinite_of_add h
  exact ⟨hx, neg_isFinite_iff.mp hy⟩

/-- A product with an infinite factor is not finite. -/
theorem not_isFinite_infinite_mul (s : Bool) (y : Binary64) : ¬ ((infinite s).mul y).IsFinite := by
  cases y with
  | finite t n =>
    rw [mul]
    split
    · exact not_isFinite_nan
    · exact not_isFinite_infinite _
  | infinite t => exact not_isFinite_infinite _
  | nan => exact not_isFinite_nan

theorem not_isFinite_mul_infinite (x : Binary64) (t : Bool) : ¬ (x.mul (infinite t)).IsFinite := by
  cases x with
  | finite s m =>
    rw [mul]
    split
    · exact not_isFinite_nan
    · exact not_isFinite_infinite _
  | infinite s => exact not_isFinite_infinite _
  | nan => exact not_isFinite_nan

/-- A finite product has finite factors. -/
theorem isFinite_of_mul {x y : Binary64} (h : (x.mul y).IsFinite) : x.IsFinite ∧ y.IsFinite := by
  cases x with
  | finite s m =>
    cases y with
    | finite t n => exact ⟨.intro s m, .intro t n⟩
    | infinite t => exact absurd h (not_isFinite_mul_infinite _ t)
    | nan => exact absurd h not_isFinite_nan
  | infinite s => exact absurd h (not_isFinite_infinite_mul s y)
  | nan => exact absurd h not_isFinite_nan

end Binary64

namespace Number

/-- The floating-point number nearest to it, infinite if it is too large. -/
def near : Number → Binary64
  | int n => Binary64.ofQuotient (n < 0) n.natAbs 1
  | real x => x

/-- A number that is an integer, or defined and not infinite. -/
inductive IsFinite : Number → Prop where
  | int (n : Int) : IsFinite (int n)
  | real {x : Binary64} (h : x.IsFinite) : IsFinite (real x)

theorem real_isFinite_iff {x : Binary64} : (real x).IsFinite ↔ x.IsFinite :=
  ⟨fun | .real h => h, .real⟩

theorem eq_of_unlessInfinite {fault : Fault} {x y : Binary64} (h : unlessInfinite fault x = .ok y) :
    x = y := by
  cases x with
  | infinite s => cases h
  | _ => exact Except.ok.inj h

theorem unlessInfinite_of_isFinite (fault : Fault) {x : Binary64} (h : x.IsFinite) :
    unlessInfinite fault x = .ok x := by
  obtain ⟨s, m⟩ := h
  rfl

/-- The nearest number to an integer is finite exactly if the integer is not too large. -/
theorem near_int_isFinite_iff (n : Int) : (int n).near.IsFinite ↔ n.natAbs < sizeBound := by
  rw [near, Binary64.ofQuotient, Binary64.ofUnits_isFinite_iff, Binary64.roundUnits_lt_iff]

/-- A conversion gives the nearest number. -/
theorem near_of_toReal {x : Number} {y : Binary64} (h : x.toReal = .ok y) : x.near = y := by
  cases x with
  | real x => exact Except.ok.inj h
  | int n =>
    rw [toReal] at h
    rw [near, eq_of_unlessInfinite h]

/-- A number whose nearest one is finite can be converted. -/
theorem toReal_of_isFinite {x : Number} (h : x.near.IsFinite) : x.toReal = .ok x.near := by
  cases x with
  | real x => rfl
  | int n =>
    rw [near] at h
    rw [toReal, near, unlessInfinite_of_isFinite _ h]

/-- **An integer can be converted exactly if it is not too large.** -/
theorem toReal_int_answers_iff (n : Int) : Answers (int n).toReal ↔ n.natAbs < sizeBound := by
  rw [← near_int_isFinite_iff]
  constructor
  · rintro ⟨y, hy⟩
    rw [near_of_toReal hy]
    rw [toReal, Binary64.ofQuotient, Binary64.ofUnits] at hy
    split at hy
    · cases hy
    · rw [← eq_of_unlessInfinite hy]
      exact .intro _ _
  · intro h
    exact ⟨_, toReal_of_isFinite h⟩

/-! ## Results that do not stop -/

/-- An operation on two numbers in which whatever is too large is infinite. -/
def joined (ints : Int → Int → Int) (reals : Binary64 → Binary64 → Binary64) :
    Number → Number → Number
  | int m, int n => int (ints m n)
  | x, y => real (reals x.near y.near)

/-- The difference, infinite if it is too large. -/
def minus : Number → Number → Number := joined (· - ·) Binary64.sub

/-- The product, infinite if it is too large. -/
def times : Number → Number → Number := joined (· * ·) Binary64.mul

section Combine

variable {ints : Int → Int → Int} {reals : Binary64 → Binary64 → Binary64} {x y z : Number}

/-- An operation that has an answer has the one in which nothing stops. -/
theorem combine_eq_ok (h : combine ints reals x y = .ok z) : z = joined ints reals x y := by
  have hreal : (do let a ← x.toReal; let b ← y.toReal; pure (real (reals a b)) :
      Except Fault Number) = .ok z → z = real (reals x.near y.near) := by
    intro h
    obtain ⟨a, ha, h⟩ := Answers.bind_eq_ok h
    obtain ⟨b, hb, h⟩ := Answers.bind_eq_ok h
    rw [near_of_toReal ha, near_of_toReal hb]
    exact (Except.ok.inj h).symm
  cases x with
  | int m =>
    cases y with
    | int n => exact (Except.ok.inj h).symm
    | real y => exact hreal h
  | real x => exact hreal h

/-- If what is not finite stays so under an operation, a finite result has finite operands, and the
operation has it for an answer. -/
theorem combine_of_isFinite
    (hreals : ∀ a b, (reals a b).IsFinite → a.IsFinite ∧ b.IsFinite)
    (h : (joined ints reals x y).IsFinite) :
    x.IsFinite ∧ y.IsFinite ∧ combine ints reals x y = .ok (joined ints reals x y) := by
  have hreal : (reals x.near y.near).IsFinite →
      (do let a ← x.toReal; let b ← y.toReal; pure (real (reals a b)) : Except Fault Number) =
        .ok (real (reals x.near y.near)) := by
    intro h
    obtain ⟨hx, hy⟩ := hreals _ _ h
    rw [toReal_of_isFinite hx, toReal_of_isFinite hy]
    rfl
  cases x with
  | int m =>
    cases y with
    | int n => exact ⟨.int m, .int n, rfl⟩
    | real y =>
      have h := real_isFinite_iff.mp h
      exact ⟨.int m, .real (hreals _ _ h).2, hreal h⟩
  | real x =>
    have h := real_isFinite_iff.mp h
    cases y with
    | int n => exact ⟨.real (hreals _ _ h).1, .int n, hreal h⟩
    | real y => exact ⟨.real (hreals _ _ h).1, .real (hreals _ _ h).2, hreal h⟩

/-- An answer is an integer exactly if both operands are. -/
theorem combine_eq_int_iff {n : Int} : combine ints reals x y = .ok (int n) ↔
    ∃ a b, x = int a ∧ y = int b ∧ ints a b = n := by
  constructor
  · intro h
    have hjoined := combine_eq_ok h
    cases x with
    | int a =>
      cases y with
      | int b => exact ⟨a, b, rfl, rfl, (int.inj hjoined).symm⟩
      | real y => cases hjoined
    | real x => cases hjoined
  · rintro ⟨a, b, rfl, rfl, rfl⟩
    rfl

end Combine

/-- An integer times a number is an integer exactly if the number is one. -/
theorem int_mul_eq_int_iff {m n : Int} {x : Number} :
    (int m).mul x = .ok (int n) ↔ ∃ k, x = int k ∧ m * k = n := by
  refine combine_eq_int_iff.trans ⟨?_, ?_⟩
  · rintro ⟨_, k, hm, hk, hn⟩
    obtain rfl := int.inj hm
    exact ⟨k, hk, hn⟩
  · rintro ⟨k, hk, hn⟩
    exact ⟨m, k, rfl, hk, hn⟩

theorem sub_eq_ok {x y z : Number} (h : x.sub y = .ok z) : x.minus y = z := (combine_eq_ok h).symm

theorem mul_eq_ok {x y z : Number} (h : x.mul y = .ok z) : x.times y = z := (combine_eq_ok h).symm

/-- A finite difference has finite terms and is computed. -/
theorem IsFinite.of_minus {x y : Number} (h : (x.minus y).IsFinite) :
    x.IsFinite ∧ y.IsFinite ∧ x.sub y = .ok (x.minus y) :=
  combine_of_isFinite (fun _ _ => Binary64.isFinite_of_sub) h

/-- A finite product has finite factors and is computed. -/
theorem IsFinite.of_times {x y : Number} (h : (x.times y).IsFinite) :
    x.IsFinite ∧ y.IsFinite ∧ x.mul y = .ok (x.times y) :=
  combine_of_isFinite (fun _ _ => Binary64.isFinite_of_mul) h

/-- A whole part exists exactly if the number is finite. -/
theorem toInt_answers_iff {x : Number} : Answers x.toInt ↔ x.IsFinite := by
  match x with
  | int n => exact iff_of_true (Answers.ok n) (.int n)
  | real .nan =>
    exact iff_of_false (Answers.not_error _) fun h =>
      Binary64.not_isFinite_nan (real_isFinite_iff.mp h)
  | real (.infinite s) =>
    exact iff_of_false (Answers.not_error _) fun h =>
      Binary64.not_isFinite_infinite s (real_isFinite_iff.mp h)
  | real (.finite s m) => exact iff_of_true (Answers.ok _) (.real (.intro s m))

/-! ## Results of the floating-point kind -/

/-- A computation has an answer of the floating-point kind. -/
def GivesReal (e : Except Fault Number) : Prop := ∃ x, e = .ok (real x)

theorem GivesReal.bind {e : Except Fault Number} {f : Number → Except Fault Number}
    (he : GivesReal e) (hf : ∀ x, GivesReal (f (real x))) : GivesReal (e >>= f) := by
  obtain ⟨x, rfl⟩ := he
  exact hf x

theorem add_givesReal (x y : Binary64) : GivesReal ((real x).add (real y)) := ⟨_, rfl⟩

/-- A product of a small number of things with a weight. -/
theorem mul_givesReal {n : Nat} (h : n < sizeBound) (x : Binary64) :
    GivesReal ((int n).mul (real x)) := by
  obtain ⟨a, ha⟩ := (toReal_int_answers_iff n).mpr h
  refine ⟨a.mul x, ?_⟩
  show ((int n).toReal >>= fun a => _) = _
  rw [ha]
  rfl

/-- A quotient of a small number of things by a weight. -/
theorem divide_givesReal {n : Nat} (h : n < sizeBound) (x : Binary64) :
    GivesReal ((int n).divide (real x)) := by
  obtain ⟨a, ha⟩ := (toReal_int_answers_iff n).mpr h
  refine ⟨(a.div? x).getD .nan, ?_⟩
  show ((int n).toReal >>= fun a => _) = _
  rw [ha]
  rfl

theorem min_real (x y : Binary64) : ∃ z, (real x).min (real y) = real z := by
  rw [min]
  split
  · exact ⟨y, rfl⟩
  · exact ⟨x, rfl⟩

end Number
end TemplateLint
