import TemplateLint.Analysis.Context
import TemplateLint.Number.Reading

/-!
# Computations with an answer

A computation either has an answer or stops.  Steps that follow each other have one if each of them
has, given what came before (`Answers.bind_iff`); steps that do not depend on each other can be looked
at one by one (`Answers.gather_iff`).
-/
namespace TemplateLint

/-- A computation has an answer. -/
def Answers {ε α : Type} (x : Except ε α) : Prop := ∃ a, x = .ok a

namespace Answers

variable {ε α β : Type}

@[simp] theorem ok (a : α) : Answers (.ok a : Except ε α) := ⟨a, rfl⟩

@[simp] theorem pure (a : α) : Answers (Pure.pure a : Except ε α) := ⟨a, rfl⟩

@[simp] theorem not_error (e : ε) : ¬ Answers (.error e : Except ε α) := by
  rintro ⟨a, ha⟩
  cases ha

theorem ok_bind_iff {a : α} {f : α → Except ε β} :
    Answers (.ok a >>= f : Except ε β) ↔ Answers (f a) := Iff.rfl

/-- An answer of two steps comes from an answer of the first. -/
theorem bind_eq_ok {x : Except ε α} {f : α → Except ε β} {b : β} (h : (x >>= f) = .ok b) :
    ∃ a, x = .ok a ∧ f a = .ok b := by
  cases x with
  | error e => cases h
  | ok a => exact ⟨a, rfl, h⟩

/-- Two steps have the answer of the second for that of the first. -/
theorem bind_of_eq_ok {x : Except ε α} {f : α → Except ε β} {a : α} {b : β} (hx : x = .ok a)
    (hf : f a = .ok b) : (x >>= f) = .ok b := by
  rw [hx]
  exact hf

/-- An answer does not come from an error, however that is told. -/
theorem mapError_eq_ok {δ : Type} {x : Except ε α} {f : ε → δ} {a : α}
    (h : x.mapError f = .ok a) : x = .ok a := by
  cases x with
  | error e => cases h
  | ok b => exact congrArg Except.ok (Except.ok.inj h)

theorem bind_iff {x : Except ε α} {f : α → Except ε β} :
    Answers (x >>= f) ↔ ∃ a, x = .ok a ∧ Answers (f a) := by
  constructor
  · rintro ⟨b, hb⟩
    obtain ⟨a, ha, hf⟩ := bind_eq_ok hb
    exact ⟨a, ha, b, hf⟩
  · rintro ⟨a, rfl, h⟩
    exact h

/-- A second step that has an answer whatever the first one gives does not matter. -/
theorem bind_iff_left {x : Except ε α} {f : α → Except ε β} (hf : ∀ a, Answers (f a)) :
    Answers (x >>= f) ↔ Answers x := by
  rw [bind_iff]
  exact ⟨fun ⟨a, ha, _⟩ => ⟨a, ha⟩, fun ⟨a, ha⟩ => ⟨a, ha, hf a⟩⟩

theorem map_iff {x : Except ε α} {f : α → β} : Answers (x.map f) ↔ Answers x := by
  cases x with
  | error e => exact ⟨fun h => absurd h (not_error e), fun h => absurd h (not_error e)⟩
  | ok a => exact ⟨fun _ => ok a, fun _ => ok (f a)⟩

theorem mapM_iff {f : α → Except ε β} {l : List α} : Answers (l.mapM f) ↔ ∀ a ∈ l, Answers (f a) := by
  induction l with
  | nil => exact ⟨fun _ a ha => absurd ha List.not_mem_nil, fun _ => ok []⟩
  | cons a l ih =>
    rw [List.mapM_cons, bind_iff, List.forall_mem_cons, ← ih]
    constructor
    · rintro ⟨b, hb, h⟩
      exact ⟨⟨b, hb⟩, (bind_iff_left fun bs => pure (b :: bs)).mp h⟩
    · rintro ⟨⟨b, hb⟩, h⟩
      exact ⟨b, hb, (bind_iff_left fun bs => pure (b :: bs)).mpr h⟩

/-- Looking at things one after another has an answer if each look has. -/
theorem gather_iff {look : α → Except Fault (List Finding)} {things : List α} :
    Answers (gather look things) ↔ ∀ t ∈ things, Answers (look t) := by
  rw [gather, bind_iff_left fun found => pure (List.flatten found), mapM_iff]

end Answers

/-- What is found in each of some things is found in all of them. -/
theorem gather_eq_ok {α : Type} {look : α → Except Fault (List Finding)} {found : α → List Finding}
    {things : List α} (h : ∀ t ∈ things, look t = .ok (found t)) :
    gather look things = .ok (things.flatMap found) := by
  have hall : things.mapM look = .ok (things.map found) := by
    induction things with
    | nil => rfl
    | cons t things ih =>
      obtain ⟨ht, hthings⟩ := List.forall_mem_cons.mp h
      rw [List.mapM_cons, ht, ih hthings]
      rfl
  rw [gather, hall]
  exact congrArg Except.ok List.flatMap_def.symm

/-! ## Thresholds -/

/-- A number of matches that is zero does not exceed a threshold. -/
def Value.AllowsNone (threshold : Value) : Prop := threshold.isExceededBy 0 = .ok false

namespace Value

variable {threshold : Value}

/-- A comparison with a number has an answer. -/
theorem isExceededBy_eq (h : threshold.isNumber = true) (n : Number) :
    ∃ limit, threshold.toNumber? = some limit ∧ threshold.isExceededBy n = .ok (!n.le limit) := by
  obtain ⟨limit, hlimit⟩ := Option.isSome_iff_exists.mp h
  exact ⟨limit, hlimit, by rw [isExceededBy, hlimit]⟩

theorem isExceededBy_answers (h : threshold.isNumber = true) (n : Number) :
    Answers (threshold.isExceededBy n) := by
  obtain ⟨limit, -, heq⟩ := isExceededBy_eq h n
  exact ⟨_, heq⟩

theorem isBelow_answers (h : threshold.isNumber = true) (n : Number) :
    Answers (threshold.isBelow n) := by
  obtain ⟨limit, hlimit⟩ := Option.isSome_iff_exists.mp h
  exact ⟨limit.lt n, by rw [isBelow, hlimit]⟩

end Value

/-- What follows a comparison of a count has an answer if it has one for the result. -/
theorem exceeds_bind_iff {β : Type} {count : Nat} {threshold : Value} {f : Bool → Except Fault β}
    (h : threshold.isNumber = true) (hf : Answers (f false)) :
    Answers (exceeds count threshold >>= f) ↔
      (exceeds count threshold = .ok true → Answers (f true)) := by
  obtain ⟨b, hb⟩ := Value.isExceededBy_answers h (.int count)
  have hexceeds : exceeds count threshold = .ok b := hb
  rw [hexceeds]
  cases b with
  | false => exact ⟨fun _ hc => absurd (Except.ok.inj hc) Bool.false_ne_true, fun _ => hf⟩
  | true => exact ⟨fun h _ => h, fun h => h rfl⟩

/-- If both branches have an answer, so has what follows a comparison of a count. -/
theorem exceeds_bind_answers {β : Type} {count : Nat} {threshold : Value}
    {f : Bool → Except Fault β} (h : threshold.isNumber = true) (hf : ∀ b, Answers (f b)) :
    Answers (exceeds count threshold >>= f) :=
  (exceeds_bind_iff h (hf false)).mpr fun _ => hf true

/-- A run of digits can be read if it is not too long. -/
theorem readDigits_answers_iff {digits : Text} :
    Answers (readDigits digits) ↔ digits.length ≤ digitLimit := by
  rw [readDigits]
  split
  · next h =>
    exact ⟨fun hr => absurd hr (Answers.not_error _), fun hle => absurd h (Nat.not_lt.mpr hle)⟩
  · next h => exact ⟨fun _ => Nat.le_of_not_lt h, fun _ => Answers.ok _⟩

/-- A number can be written if its text is asked for with success. -/
theorem Number.written_answers_iff {n : Number} : Answers n.written ↔ n.isWritable = true := by
  rw [written]
  split
  · next h => exact ⟨fun _ => h, fun _ => Answers.ok _⟩
  · next h => exact ⟨fun hw => absurd hw (Answers.not_error _), fun hw => absurd hw h⟩

end TemplateLint
