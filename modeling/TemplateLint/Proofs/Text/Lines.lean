import TemplateLint.Text.Basic

/-!
# Lines and offsets

A line starts behind the lines before it and their line ends.  From there on the text goes on with the
line itself, and then ends or has a line end (`drop_lineStart`).  The lines that start up to an offset are
counted by the line ends in front of it (`le_count_take_iff`).
-/
namespace TemplateLint
namespace Text

/-- The offset at which a line starts; lines are counted from zero here. -/
def lineStart (text : Text) (index : Nat) : Nat :=
  (text.lines.take index).foldr (fun line later => line.length + 1 + later) 0

/-- The offset of a line and a column, both counted from one. -/
def offsetOf (text : Text) (line column : Int) : Nat :=
  lineStart text (line - 1).toNat + (column - 1).toNat

@[simp] theorem lineStart_zero (text : Text) : lineStart text 0 = 0 := by
  simp [lineStart]

/-- Behind a line end the lines are counted on. -/
theorem lineStart_newline (rest : Text) (index : Nat) :
    lineStart ('\n' :: rest) (index + 1) = lineStart rest index + 1 := by
  rw [lineStart, lines, splitOn_cons_self, List.take_succ_cons, List.foldr_cons,
    List.length_nil, lineStart, lines]
  omega

/-- A character that is no line end moves the later lines on by one. -/
theorem lineStart_cons {c : Char} (h : c ≠ '\n') (rest : Text) (index : Nat) :
    lineStart (c :: rest) (index + 1) = lineStart rest (index + 1) + 1 := by
  obtain ⟨piece, pieces, hr⟩ := List.exists_cons_of_ne_nil (List.splitOn_ne_nil '\n' rest)
  rw [lineStart, lineStart, lines, lines, splitOn_cons_of_ne h hr, hr]
  simp only [List.take_succ_cons, List.foldr_cons, List.length_cons]
  omega

/-- A line starts behind the line end of the one before it. -/
theorem lineStart_succ {text line : Text} {index : Nat} (h : text.lines[index]? = some line) :
    lineStart text (index + 1) = lineStart text index + line.length + 1 := by
  have hsum : ∀ (lines : List Text) (start : Nat),
      lines.foldr (fun line later => line.length + 1 + later) start =
        lines.foldr (fun line later => line.length + 1 + later) 0 + start := by
    intro lines start
    induction lines with
    | nil => simp
    | cons first lines ih =>
      rw [List.foldr_cons, ih, List.foldr_cons]
      omega
  rw [lineStart, List.take_add_one, h, List.foldr_append, hsum]
  rfl

/-- A later line starts no earlier. -/
theorem lineStart_mono (text : Text) {index index' : Nat} (h : index ≤ index') :
    lineStart text index ≤ lineStart text index' := by
  induction h with
  | refl => exact Nat.le_refl _
  | @step last _ ih =>
    refine Nat.le_trans ih ?_
    cases hline : text.lines[last]? with
    | some line =>
      rw [lineStart_succ hline]
      omega
    | none =>
      have hsame : text.lines.take (last + 1) = text.lines.take last := by
        rw [List.take_add_one, hline, Option.toList, List.append_nil]
      exact Nat.le_of_eq (by rw [lineStart, lineStart, hsame])

/-- Behind the last line the text is at its end, with a line end counted that it does not have. -/
theorem lineStart_lineCount (text : Text) : lineStart text text.lineCount = text.length + 1 := by
  induction text with
  | nil => rfl
  | cons c rest ih =>
    rw [lineCount] at ih ⊢
    by_cases hc : c = '\n'
    · subst hc
      rw [List.count_cons_self, lineStart_newline, ih, List.length_cons]
    · rw [List.count_cons_of_ne hc, lineStart_cons hc, ih, List.length_cons]

/-- A line lies inside the text. -/
theorem lineStart_add_length_le {text line : Text} {index : Nat}
    (h : text.lines[index]? = some line) : lineStart text index + line.length ≤ text.length := by
  have hindex : index < text.lines.length := (List.getElem?_eq_some_iff.mp h).1
  rw [length_lines] at hindex
  have hmono := lineStart_mono text (Nat.succ_le_of_lt hindex)
  rw [Nat.succ_eq_add_one, lineStart_succ h, lineStart_lineCount] at hmono
  omega

/-- From its start on the text goes on with the line, and what follows is nothing or a line end. -/
theorem drop_lineStart {text line : Text} {index : Nat} (h : text.lines[index]? = some line) :
    ∃ after, text.drop (lineStart text index) = line ++ after ∧ (∀ c ∈ after.head?, c = '\n') := by
  induction text generalizing index line with
  | nil =>
    cases index with
    | zero =>
      obtain rfl : [] = line := by simpa [lines] using h
      exact ⟨[], rfl, by simp⟩
    | succ index => simp [lines] at h
  | cons c rest ih =>
    by_cases hc : c = '\n'
    · subst hc
      rw [lines, splitOn_cons_self] at h
      cases index with
      | zero =>
        obtain rfl : [] = line := by simpa using h
        exact ⟨'\n' :: rest, rfl, by simp⟩
      | succ index =>
        rw [List.getElem?_cons_succ] at h
        rw [lineStart_newline, List.drop_succ_cons]
        exact ih h
    · -- any other character makes the first line of the rest longer
      obtain ⟨piece, pieces, hr⟩ := List.exists_cons_of_ne_nil (List.splitOn_ne_nil '\n' rest)
      rw [lines, splitOn_cons_of_ne hc hr] at h
      cases index with
      | zero =>
        obtain rfl : c :: piece = line := by simpa using h
        have hpiece : lines rest = piece :: pieces := hr
        obtain ⟨after, hafter, hhead⟩ := ih (show (lines rest)[0]? = some piece by rw [hpiece]; rfl)
        rw [lineStart_zero, List.drop_zero] at hafter
        exact ⟨after, by rw [lineStart_zero, List.drop_zero, hafter, List.cons_append], hhead⟩
      | succ index =>
        rw [List.getElem?_cons_succ] at h
        rw [lineStart_cons hc, List.drop_succ_cons]
        exact ih (by rw [lines, hr, List.getElem?_cons_succ, h])

/-- As many later lines start up to an offset as there are line ends in front of it. -/
theorem le_count_take_iff {text : Text} {index : Nat} (h : index < text.lineCount) (offset : Nat) :
    index ≤ (text.take offset).count '\n' ↔ lineStart text index ≤ offset := by
  cases index with
  | zero => simp
  | succ index =>
    rw [lineCount] at h
    induction text generalizing index offset with
    | nil => exact absurd h (by simp)
    | cons c rest ih =>
      cases offset with
      | zero =>
        -- a later line starts behind a line end
        have hstart : 0 < lineStart (c :: rest) (index + 1) := by
          by_cases hc : c = '\n'
          · rw [hc, lineStart_newline]
            omega
          · rw [lineStart_cons hc]
            omega
        simp only [List.take_zero, List.count_nil]
        omega
      | succ offset =>
        rw [List.take_succ_cons]
        by_cases hc : c = '\n'
        · rw [hc, List.count_cons_self] at h ⊢
          rw [lineStart_newline]
          cases index with
          | zero => simp
          | succ index =>
            have hrest := ih offset index (by omega)
            omega
        · rw [List.count_cons_of_ne hc] at h ⊢
          have hrest := ih offset index h
          rw [lineStart_cons hc]
          omega

end Text
end TemplateLint
