import TemplateLint.Proofs.Answers

/-!
# Where a computation stops

A computation that stops with an error of a kind does so at one of its steps, after the steps before it
have answered.  There is one law for each way of putting steps together (`Stops.bind_iff`,
`Stops.mapError_iff`, `Stops.forM_iff`), so a program is followed once for the errors that it may stop
with.
-/
namespace TemplateLint

/-- A computation stops with an error of a kind. -/
def Stops {ε α : Type} (P : ε → Prop) (x : Except ε α) : Prop := ∃ e, x = .error e ∧ P e

namespace Stops

variable {ε δ α β : Type} {P : ε → Prop}

@[simp] theorem not_ok (a : α) : ¬ Stops P (.ok a : Except ε α) := by
  rintro ⟨e, h, -⟩
  cases h

@[simp] theorem error_iff {e : ε} : Stops P (.error e : Except ε α) ↔ P e := by
  constructor
  · rintro ⟨e', h, he⟩
    exact Except.error.inj h ▸ he
  · intro he
    exact ⟨e, rfl, he⟩

/-- An error of another kind is not what a computation stops with. -/
theorem not_error {e : ε} (h : ¬ P e) : ¬ Stops P (.error e : Except ε α) := fun hstops =>
  h (error_iff.mp hstops)

/-- Two steps stop where the first one stops, or else where the second does. -/
theorem bind_iff {x : Except ε α} {f : α → Except ε β} :
    Stops P (x >>= f) ↔ Stops P x ∨ ∃ a, x = .ok a ∧ Stops P (f a) := by
  cases x with
  | ok a =>
    constructor
    · intro h
      exact Or.inr ⟨a, rfl, h⟩
    · rintro (h | ⟨b, hb, h⟩)
      · exact absurd h (not_ok a)
      · exact Except.ok.inj hb ▸ h
  | error e =>
    constructor
    · intro h
      exact Or.inl (error_iff.mpr (error_iff.mp h))
    · rintro (h | ⟨b, hb, -⟩)
      · exact error_iff.mpr (error_iff.mp h)
      · cases hb

/-- Steps that never stop in this way do not stop so one after another. -/
theorem not_bind {x : Except ε α} {f : α → Except ε β} (hx : ¬ Stops P x)
    (hf : ∀ a, ¬ Stops P (f a)) : ¬ Stops P (x >>= f) := by
  rw [bind_iff]
  rintro (h | ⟨a, -, h⟩)
  · exact hx h
  · exact hf a h

/-- A refusal behind a test stops only where the test stops or with the error of the refusal. -/
theorem not_refuse {x : Except ε Bool} {e : ε} (hx : ¬ Stops P x) (he : ¬ P e) :
    ¬ Stops P (x >>= fun no => if no = true then throw e else pure ()) := by
  refine not_bind hx fun no => ?_
  cases no with
  | false => exact not_ok ()
  | true => exact not_error he

theorem map_iff {x : Except ε α} {f : α → β} : Stops P (x.map f) ↔ Stops P x := by
  cases x with
  | ok a => exact iff_of_false (not_ok (f a)) (not_ok a)
  | error e => exact error_iff.trans error_iff.symm

theorem mapError_iff {x : Except δ α} {f : δ → ε} :
    Stops P (x.mapError f) ↔ Stops (fun d => P (f d)) x := by
  cases x with
  | ok a => exact iff_of_false (not_ok a) (not_ok a)
  | error d => exact error_iff.trans (error_iff (P := fun d => P (f d))).symm

/-- Checks that come one after another stop where the first that does not pass stops. -/
theorem forM_iff {check : α → Except ε Unit} {values : List α} :
    Stops P (values.forM check) ↔ ∃ before v after, values = before ++ v :: after ∧
      (∀ u ∈ before, check u = .ok ()) ∧ Stops P (check v) := by
  induction values with
  | nil =>
    refine iff_of_false (not_ok ()) ?_
    rintro ⟨before, v, after, h, -⟩
    cases before <;> cases h
  | cons first values ih =>
    show Stops P (check first >>= fun _ => values.forM check) ↔ _
    rw [bind_iff, ih]
    constructor
    · rintro (h | ⟨⟨⟩, hfirst, before, v, after, rfl, hbefore, h⟩)
      · exact ⟨[], first, values, rfl, List.forall_mem_nil _, h⟩
      · exact ⟨first :: before, v, after, rfl, List.forall_mem_cons.mpr ⟨hfirst, hbefore⟩, h⟩
    · rintro ⟨before, v, after, heq, hbefore, h⟩
      cases before with
      | nil =>
        obtain ⟨rfl, -⟩ := List.cons.inj heq
        exact Or.inl h
      | cons head before =>
        obtain ⟨rfl, rfl⟩ := List.cons.inj heq
        obtain ⟨hfirst, hbefore⟩ := List.forall_mem_cons.mp hbefore
        exact Or.inr ⟨(), hfirst, before, v, after, rfl, hbefore, h⟩

theorem not_forM {check : α → Except ε Unit} (h : ∀ v, ¬ Stops P (check v)) (values : List α) :
    ¬ Stops P (values.forM check) := by
  rw [forM_iff]
  rintro ⟨before, v, after, -, -, hv⟩
  exact h v hv

theorem not_foldlM {step : β → α → Except ε β} (h : ∀ b a, ¬ Stops P (step b a)) (values : List α)
    (start : β) : ¬ Stops P (values.foldlM step start) := by
  induction values generalizing start with
  | nil => exact not_ok start
  | cons v values ih =>
    rw [List.foldlM_cons]
    exact not_bind (h start v) ih

end Stops

end TemplateLint
