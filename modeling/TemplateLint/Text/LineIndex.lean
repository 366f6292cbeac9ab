import TemplateLint.Text.Basic

/-!
# Line indexes

The offsets at which the lines of a text start.  The line of an offset is found among them by halving, and
its column is counted from the start of that line.
-/
namespace TemplateLint

/-- Where the lines of a text start: the first at the front, and each further one behind the one before
it. -/
structure LineIndex where
  starts : Array Nat
  first : starts[0]? = some 0
  increasing : starts.toList.Pairwise (· < ·)

namespace LineIndex

/-- The offsets behind the line ends of a text that begins at an offset. -/
def behindLineEnds (offset : Nat) (text : Text) : List Nat :=
  (text.zipIdx offset).filterMap fun (c, place) => if c = '\n' then some (place + 1) else none

theorem behindLineEnds_newline (offset : Nat) (rest : Text) :
    behindLineEnds offset ('\n' :: rest) = (offset + 1) :: behindLineEnds (offset + 1) rest := by
  simp [behindLineEnds, List.zipIdx_cons]

theorem behindLineEnds_cons {c : Char} (h : c ≠ '\n') (offset : Nat) (rest : Text) :
    behindLineEnds offset (c :: rest) = behindLineEnds (offset + 1) rest := by
  simp [behindLineEnds, List.zipIdx_cons, h]

theorem mem_behindLineEnds {offset start : Nat} {text : Text} :
    start ∈ behindLineEnds offset text ↔
      ∃ place, text[place]? = some '\n' ∧ start = offset + place + 1 := by
  simp only [behindLineEnds, List.mem_filterMap, List.mem_zipIdx_iff_le_and_getElem?_sub,
    Prod.exists, Option.ite_none_right_eq_some, Option.some.injEq]
  constructor
  · rintro ⟨c, place, ⟨hle, hc⟩, rfl, rfl⟩
    exact ⟨place - offset, hc, by omega⟩
  · rintro ⟨place, hc, rfl⟩
    exact ⟨'\n', offset + place, ⟨by omega, by rwa [Nat.add_sub_cancel_left]⟩, rfl, rfl⟩

theorem pairwise_behindLineEnds (offset : Nat) (text : Text) :
    (behindLineEnds offset text).Pairwise (· < ·) := by
  have hplaces : (text.zipIdx offset).Pairwise fun a b => a.2 < b.2 := by
    rw [← List.pairwise_map, List.zipIdx_map_snd]
    exact List.pairwise_lt_range' _
  refine hplaces.filterMap _ fun a b hab start hstart later hlater => ?_
  rw [Option.ite_none_right_eq_some, Option.some.injEq] at hstart hlater
  omega

/-- The index of a text. -/
def ofText (text : Text) : LineIndex where
  starts := (0 :: behindLineEnds 0 text).toArray
  first := rfl
  increasing := by
    refine List.pairwise_cons.mpr ⟨fun start hstart => ?_, pairwise_behindLineEnds 0 text⟩
    obtain ⟨place, -, rfl⟩ := mem_behindLineEnds.mp hstart
    omega

/-- The number of lines. -/
def lineCount (index : LineIndex) : Nat := index.starts.size

/-- How many starts do not lie behind an offset, if at least `low` and at most `high` of them do not. -/
def search (starts : Array Nat) (offset : Int) (low high : Nat) (h : high ≤ starts.size) : Nat :=
  if hlt : low < high then
    let middle := (low + high) / 2
    have hmiddle : middle < starts.size := by omega
    if offset < starts[middle] then search starts offset low middle (Nat.le_of_lt hmiddle)
    else search starts offset (middle + 1) high h
  else low
termination_by high - low

/-- The line of an offset, counted from one: the last that does not start behind it.  In front of the text
there is none, and the line is zero. -/
def lineOf (index : LineIndex) (offset : Int) : Nat :=
  search index.starts offset 0 index.starts.size (Nat.le_refl _)

/-- The start of a line, counted from one; in front of the first line it is that of the last. -/
def startOf (index : LineIndex) : Nat → Nat
  | 0 => index.starts.back?.getD 0
  | line + 1 => index.starts[line]?.getD 0

/-- The column of an offset, counted from one at the start of its line. -/
def columnOf (index : LineIndex) (offset : Int) : Int :=
  offset - index.startOf (index.lineOf offset) + 1

end LineIndex

end TemplateLint
