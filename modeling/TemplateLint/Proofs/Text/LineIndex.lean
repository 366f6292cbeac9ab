import TemplateLint.Proofs.Text.Lines
import TemplateLint.Text.Position

/-!
# The search for a line

The border between the starts up to an offset and those behind it stays between the bounds when they are
halved (`LineIndex.Border.lower`, `LineIndex.Border.raise`), so the search ends there
(`LineIndex.search_border`).  The starts are those of the lines that the text is split into
(`LineIndex.toList_starts_ofText`).  So the index tells the last line that does not start behind an offset
(`LineIndex.told_ofText`): the column counts from the one place where the line of the offset starts
(`LineIndex.exists_startsLineOf`), positions come in the order of their offsets
(`LineIndex.lineOf_lt_or_columnOf_lt`), and lead back to them (`LineIndex.offsetOf_told`).

The position of an offset inside a text is the one line and column that stand for it
(`Position.ofOffset_spec`), and a character that is no line end lies inside its line
(`Position.lt_length_of_ne_newline`).  Every offset has a line of the text (`Position.line_ofOffset`): the
one that starts there, if one does (`Position.ofOffset_lineStart`), and a later offset is on no earlier
line (`Position.line_mono`).
-/
namespace TemplateLint

namespace LineIndex

open Text

/-! ## Halving -/

section Search

variable {starts : Array Nat} {offset : Int}

/-- The border between the starts up to an offset and those behind it lies between two bounds. -/
structure Border (starts : Array Nat) (offset : Int) (low high : Nat) : Prop where
  low_le_high : low ≤ high
  before : ∀ i (start : Nat), starts[i]? = some start → i < low → start ≤ offset
  behind : ∀ i (start : Nat), starts[i]? = some start → high ≤ i → offset < start

/-- A later start lies no earlier. -/
theorem start_le (hincreasing : starts.toList.Pairwise (· < ·)) {i j start later : Nat}
    (hi : starts[i]? = some start) (hj : starts[j]? = some later) (hij : i ≤ j) : start ≤ later := by
  obtain ⟨hilt, rfl⟩ := Array.getElem?_eq_some_iff.mp hi
  obtain ⟨hjlt, rfl⟩ := Array.getElem?_eq_some_iff.mp hj
  obtain rfl | hlt := Nat.eq_or_lt_of_le hij
  · exact Nat.le_refl _
  · exact Nat.le_of_lt (List.pairwise_iff_getElem.mp hincreasing i j hilt hjlt hlt)

namespace Border

variable {low middle high : Nat} {start : Nat}

/-- A start behind the offset is an upper bound. -/
theorem lower (h : Border starts offset low high) (hincreasing : starts.toList.Pairwise (· < ·))
    (hmiddle : starts[middle]? = some start) (hle : low ≤ middle) (hbehind : offset < start) :
    Border starts offset low middle where
  low_le_high := hle
  before := h.before
  behind i later hi hge := by
    have hstart := start_le hincreasing hmiddle hi hge
    omega

/-- Behind a start up to the offset there is a lower bound. -/
theorem raise (h : Border starts offset low high) (hincreasing : starts.toList.Pairwise (· < ·))
    (hmiddle : starts[middle]? = some start) (hlt : middle < high) (hbefore : start ≤ offset) :
    Border starts offset (middle + 1) high where
  low_le_high := hlt
  before i earlier hi hlt := by
    have hstart := start_le hincreasing hi hmiddle (Nat.le_of_lt_succ hlt)
    omega
  behind := h.behind

end Border

/-- Halving ends at the border between the starts up to an offset and those behind it. -/
theorem search_border (hincreasing : starts.toList.Pairwise (· < ·)) {low high : Nat}
    (hsize : high ≤ starts.size) (h : Border starts offset low high) :
    search starts offset low high hsize ≤ high ∧
      Border starts offset (search starts offset low high hsize)
        (search starts offset low high hsize) := by
  fun_induction search starts offset low high hsize with
  | case1 low high hsize hlt middle hmiddle hbehind ih =>
    have hstart := Array.getElem?_eq_getElem hmiddle
    obtain ⟨hle, hborder⟩ := ih (h.lower hincreasing hstart (by omega) hbehind)
    exact ⟨by omega, hborder⟩
  | case2 low high hsize hlt middle hmiddle hbefore ih =>
    have hstart := Array.getElem?_eq_getElem hmiddle
    exact ih (h.raise hincreasing hstart (by omega) (Int.not_lt.mp hbefore))
  | case3 low high hsize hstop =>
    obtain rfl : low = high := Nat.le_antisymm h.low_le_high (Nat.le_of_not_lt hstop)
    exact ⟨Nat.le_refl low, h⟩

end Search

/-- The search for the line of an offset ends at the border. -/
theorem lineOf_border (index : LineIndex) (offset : Int) :
    index.lineOf offset ≤ index.lineCount ∧
      Border index.starts offset (index.lineOf offset) (index.lineOf offset) := by
  refine search_border index.increasing (Nat.le_refl _) ⟨Nat.zero_le _, ?_, ?_⟩
  · exact fun i _ _ hlt => absurd hlt (Nat.not_lt_zero i)
  · exact fun i start hi hge => absurd (Array.getElem?_eq_some_iff.mp hi).1 (Nat.not_lt_of_le hge)

/-- The line of an offset is the last one that does not start behind it. -/
theorem lt_lineOf_iff (index : LineIndex) (offset : Int) {i start : Nat}
    (hi : index.starts[i]? = some start) : i < index.lineOf offset ↔ start ≤ offset := by
  have hborder := (index.lineOf_border offset).2
  refine ⟨hborder.before i start hi, fun hstart => Nat.lt_of_not_le fun hge => ?_⟩
  exact absurd hstart (Int.not_le.mpr (hborder.behind i start hi hge))

/-! ## The index of a text -/

/-- Behind its line ends a text goes on with the lines that it is split into. -/
theorem behindLineEnds_eq (offset : Nat) (text : Text) :
    behindLineEnds offset text =
      (List.range (text.count '\n')).map fun i => offset + lineStart text (i + 1) := by
  induction text generalizing offset with
  | nil => rfl
  | cons c rest ih =>
    by_cases hc : c = '\n'
    · subst hc
      rw [behindLineEnds_newline, ih, List.count_cons_self, List.range_succ_eq_map, List.map_cons,
        List.map_map, lineStart_newline, lineStart_zero]
      refine congrArg ((offset + 1) :: ·) (List.map_congr_left fun i _ => ?_)
      rw [Function.comp_apply, Nat.succ_eq_add_one, lineStart_newline, Nat.add_right_comm,
        Nat.add_assoc]
    · rw [behindLineEnds_cons hc, ih, List.count_cons_of_ne hc]
      refine List.map_congr_left fun i _ => ?_
      rw [lineStart_cons hc, Nat.add_right_comm, Nat.add_assoc]

/-- The starts in the index of a text are those of the lines that it is split into. -/
theorem toList_starts_ofText (text : Text) :
    (ofText text).starts.toList = (List.range text.lineCount).map (lineStart text) := by
  show 0 :: behindLineEnds 0 text = _
  rw [behindLineEnds_eq, Text.lineCount, List.range_succ_eq_map, List.map_cons, List.map_map,
    lineStart_zero]
  simp only [Nat.zero_add, Function.comp_def, Nat.succ_eq_add_one]

/-- The index counts the lines that the text is split into. -/
theorem lineCount_ofText (text : Text) : (ofText text).lineCount = text.lineCount := by
  rw [lineCount, ← Array.length_toList, toList_starts_ofText, List.length_map, List.length_range]

theorem getElem?_starts_ofText {text : Text} {i : Nat} (h : i < text.lineCount) :
    (ofText text).starts[i]? = some (lineStart text i) := by
  rw [← Array.getElem?_toList, toList_starts_ofText, List.getElem?_map, List.getElem?_range h]
  rfl

/-- A line starts at the front of the text and behind every line end. -/
theorem exists_lineStart_iff {text : Text} {start : Nat} :
    (∃ i < text.lineCount, lineStart text i = start) ↔
      start = 0 ∨ ∃ place, text[place]? = some '\n' ∧ start = place + 1 := by
  have hmem : start ∈ (ofText text).starts.toList ↔ start ∈ 0 :: behindLineEnds 0 text := Iff.rfl
  simpa [toList_starts_ofText, mem_behindLineEnds] using hmem

/-- The line that the index tells is the last one that does not start behind the offset, and the column
is counted from its start. -/
theorem told_ofText (text : Text) (offset : Nat) :
    ∃ i < text.lineCount, (ofText text).lineOf offset = i + 1 ∧
      (ofText text).columnOf offset = offset - lineStart text i + 1 ∧
      ∀ j < text.lineCount, j ≤ i ↔ lineStart text j ≤ offset := by
  have hpos := ((ofText text).lt_lineOf_iff offset (ofText text).first).mpr
    (Int.natCast_nonneg offset)
  obtain ⟨i, hi⟩ := Nat.exists_eq_add_one.mpr hpos
  have hle := ((ofText text).lineOf_border offset).1
  rw [hi, lineCount_ofText] at hle
  refine ⟨i, hle, hi, ?_, fun j hj => ?_⟩
  · rw [columnOf, hi, startOf, getElem?_starts_ofText hle, Option.getD_some]
  · have hstart := (ofText text).lt_lineOf_iff offset (getElem?_starts_ofText hj)
    omega

/-! ## What the index tells -/

/-- The position of an offset is the one that the index tells. -/
theorem position_ofText (text : Text) (offset : Nat) :
    (ofText text).lineOf offset = (Position.ofOffset text offset).line ∧
      (ofText text).columnOf offset = (Position.ofOffset text offset).column := by
  obtain ⟨i, hi, -, hcolumn, hlast⟩ := told_ofText text offset
  have hstart := (hlast i hi).mp (Nat.le_refl i)
  refine ⟨rfl, (Int.toNat_of_nonneg ?_).symm⟩
  omega

/-- The line of an offset starts at a place: the text begins there or has a line end in front of it, and
from there up to the offset it has none. -/
structure StartsLineOf (text : Text) (offset start : Nat) : Prop where
  le : start ≤ offset
  front : start = 0 ∨ ∃ place, text[place]? = some '\n' ∧ start = place + 1
  clear : ∀ place, start ≤ place → place < offset → text[place]? ≠ some '\n'

/-- The line of an offset does not start at two places. -/
theorem StartsLineOf.unique {text : Text} {offset start start' : Nat}
    (h : StartsLineOf text offset start) (h' : StartsLineOf text offset start') : start = start' := by
  have hle : ∀ {s s'}, StartsLineOf text offset s → StartsLineOf text offset s' → s' ≤ s := by
    intro s s' hs hs'
    obtain rfl | ⟨place, hplace, rfl⟩ := hs'.front
    · exact Nat.zero_le s
    · refine Nat.lt_of_not_le fun hge => hs.clear place hge ?_ hplace
      exact hs'.le
  exact Nat.le_antisymm (hle h' h) (hle h h')

/-- The column that the index tells is counted from the start of the line. -/
theorem exists_startsLineOf (text : Text) (offset : Nat) :
    ∃ start, (∀ place, StartsLineOf text offset place ↔ place = start) ∧
      (ofText text).columnOf offset = offset - start + 1 := by
  obtain ⟨i, hi, -, hcolumn, hlast⟩ := told_ofText text offset
  have hstarts : StartsLineOf text offset (lineStart text i) := by
    refine ⟨(hlast i hi).mp (Nat.le_refl i), exists_lineStart_iff.mp ⟨i, hi, rfl⟩, ?_⟩
    intro place hge hlt hplace
    -- behind the line end a later line would start
    obtain ⟨j, hj, hstart⟩ := exists_lineStart_iff.mpr (Or.inr ⟨place, hplace, rfl⟩)
    have hle := lineStart_mono text ((hlast j hj).mpr (by omega))
    omega
  exact ⟨lineStart text i, fun place => ⟨fun h => h.unique hstarts, fun h => h ▸ hstarts⟩, hcolumn⟩

/-- A later offset has a later position. -/
theorem lineOf_lt_or_columnOf_lt (text : Text) {offset later : Nat} (h : offset < later) :
    (ofText text).lineOf offset < (ofText text).lineOf later ∨
      (ofText text).lineOf offset = (ofText text).lineOf later ∧
        (ofText text).columnOf offset < (ofText text).columnOf later := by
  obtain ⟨i, hi, hline, hcolumn, hlast⟩ := told_ofText text offset
  obtain ⟨j, hj, hline', hcolumn', hlast'⟩ := told_ofText text later
  have hstart := (hlast i hi).mp (Nat.le_refl i)
  have hij : i ≤ j := (hlast' i hi).mpr (by omega)
  obtain rfl | hlt := Nat.eq_or_lt_of_le hij
  · exact Or.inr ⟨by rw [hline, hline'], by omega⟩
  · exact Or.inl (by omega)

/-- The position that the index tells leads back to the offset. -/
theorem offsetOf_told (text : Text) (offset : Nat) :
    offsetOf text ((ofText text).lineOf offset) ((ofText text).columnOf offset) = offset := by
  obtain ⟨i, hi, hline, hcolumn, hlast⟩ := told_ofText text offset
  have hstart := (hlast i hi).mp (Nat.le_refl i)
  have hindex : (((i + 1 : Nat) : Int) - 1).toNat = i := by omega
  rw [offsetOf, hline, hcolumn, hindex]
  omega

end LineIndex

/-! ## Positions inside a text -/

namespace Position

open Text

/-- The position of an offset is in the last line that does not start behind it. -/
theorem ofOffset_eq (text : Text) (offset : Nat) :
    ∃ index < text.lineCount, ofOffset text offset = ⟨index + 1, offset - lineStart text index + 1⟩ ∧
      ∀ j < text.lineCount, j ≤ index ↔ lineStart text j ≤ offset := by
  obtain ⟨index, hindex, hline, hcolumn, hlast⟩ := LineIndex.told_ofText text offset
  have hstart := (hlast index hindex).mp (Nat.le_refl index)
  refine ⟨index, hindex, ?_, hlast⟩
  rw [ofOffset, hline, hcolumn, mk.injEq]
  exact ⟨rfl, by omega⟩

/-- The position of an offset stands for that offset. -/
theorem ofOffset_spec {text : Text} {offset : Nat} (h : offset ≤ text.length) :
    ∃ index passed current, text.lines[index]? = some current ∧ passed ≤ current.length ∧
      lineStart text index + passed = offset ∧ ofOffset text offset = ⟨index + 1, passed + 1⟩ := by
  obtain ⟨index, hindex, hposition, hlast⟩ := ofOffset_eq text offset
  have hstart := (hlast index hindex).mp (Nat.le_refl index)
  obtain ⟨current, hcurrent⟩ : ∃ current, text.lines[index]? = some current :=
    ⟨_, List.getElem?_eq_getElem (by rwa [length_lines])⟩
  have hsucc := lineStart_succ hcurrent
  have hpassed : offset - lineStart text index ≤ current.length := by
    by_cases hnext : index + 1 < text.lineCount
    · -- the next line starts behind the offset
      have hbehind : ¬ lineStart text (index + 1) ≤ offset := fun hle =>
        Nat.not_succ_le_self index ((hlast (index + 1) hnext).mpr hle)
      omega
    · have hend := lineStart_lineCount text
      have hlastLine : text.lineCount = index + 1 := by omega
      rw [hlastLine] at hend
      omega
  exact ⟨index, offset - lineStart text index, current, hcurrent, hpassed,
    Nat.add_sub_cancel' hstart, hposition⟩

/-- The line of an offset is one more than there are line ends in front of it. -/
theorem line_eq (text : Text) (offset : Nat) :
    (ofOffset text offset).line = (text.take offset).count '\n' + 1 := by
  obtain ⟨index, hindex, hposition, hlast⟩ := ofOffset_eq text offset
  have hle := (List.take_sublist offset text).count_le '\n'
  have hcount : (text.take offset).count '\n' < text.lineCount := Nat.lt_succ_of_le hle
  have hindexLe := (le_count_take_iff hindex offset).mpr ((hlast index hindex).mp (Nat.le_refl index))
  have hcountLe := (hlast _ hcount).mpr ((le_count_take_iff hcount offset).mp (Nat.le_refl _))
  rw [hposition]
  exact congrArg (· + 1) (Nat.le_antisymm hindexLe hcountLe)

/-- An offset lies in a line of the text, also an offset behind the end. -/
theorem line_ofOffset (text : Text) (offset : Nat) :
    1 ≤ (ofOffset text offset).line ∧ (ofOffset text offset).line ≤ text.lineCount := by
  have hle := (List.take_sublist offset text).count_le '\n'
  rw [line_eq, lineCount]
  omega

/-- A later offset lies in no earlier line. -/
theorem line_mono (text : Text) {offset offset' : Nat} (h : offset ≤ offset') :
    (ofOffset text offset).line ≤ (ofOffset text offset').line := by
  have hle := (List.take_sublist_take_left (l := text) h).count_le '\n'
  rw [line_eq, line_eq]
  omega

/-- An offset inside a line stands for the position that it has there. -/
theorem ofOffset_lineStart {text line : Text} {index passed : Nat}
    (hline : text.lines[index]? = some line) (hpassed : passed ≤ line.length) :
    ofOffset text (lineStart text index + passed) = ⟨index + 1, passed + 1⟩ := by
  have hinside := lineStart_add_length_le hline
  have hle : lineStart text index + passed ≤ text.length := by omega
  obtain ⟨index', passed', line', hline', hpassed', hsum, hposition⟩ := ofOffset_spec hle
  have hindex : index' = index := by
    have hnext := lineStart_succ hline
    have hnext' := lineStart_succ hline'
    rcases Nat.lt_trichotomy index' index with hlt | heq | hgt
    · have hmono := lineStart_mono text (Nat.succ_le_of_lt hlt)
      rw [Nat.succ_eq_add_one] at hmono
      omega
    · exact heq
    · have hmono := lineStart_mono text (Nat.succ_le_of_lt hgt)
      rw [Nat.succ_eq_add_one] at hmono
      omega
  subst hindex
  obtain rfl : passed' = passed := by omega
  exact hposition

/-- The position of an offset leads back to the offset. -/
theorem offsetOf_ofOffset (text : Text) (offset : Nat) :
    offsetOf text (ofOffset text offset).line (ofOffset text offset).column = offset := by
  obtain ⟨hline, hcolumn⟩ := LineIndex.position_ofText text offset
  rw [← hline, ← hcolumn]
  exact LineIndex.offsetOf_told text offset

/-- A character that is no line end lies inside its line. -/
theorem lt_length_of_ne_newline {text current : Text} {index passed : Nat} {c : Char}
    (hcur : text.lines[index]? = some current) (hpassed : passed ≤ current.length)
    (hc : (text.drop (lineStart text index + passed)).head? = some c) (hne : c ≠ '\n') :
    passed < current.length := by
  apply Nat.lt_of_le_of_ne hpassed
  -- behind the last column there is nothing or a line end
  rintro rfl
  obtain ⟨after, hafter, hhead⟩ := drop_lineStart hcur
  rw [← List.drop_drop, hafter, List.drop_left] at hc
  exact hne (hhead c hc)

end Position
end TemplateLint
