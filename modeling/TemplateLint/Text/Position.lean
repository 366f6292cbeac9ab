import TemplateLint.Text.LineIndex

/-!
# Positions

The line and the column of an offset, both counted from one, as the index of the lines tells them.  An
offset behind the end belongs to the last line.
-/
namespace TemplateLint

/-- A line and a column, counted from one. -/
structure Position where
  line : Nat
  column : Nat
deriving DecidableEq

namespace Position

/-- The position of an offset. -/
def ofOffset (text : Text) (offset : Nat) : Position :=
  let index := LineIndex.ofText text
  ⟨index.lineOf offset, (index.columnOf offset).toNat⟩

/-- The line and the column of an offset in front of the text: line zero, with the column counted from
the start of the last line. -/
def beforeStart (text : Text) (offset : Int) : Int × Int :=
  let index := LineIndex.ofText text
  (index.lineOf offset, index.columnOf offset)

end Position

end TemplateLint
