import TemplateLint.Format.Terminal

/-!
# Plain displays

Displays as lines without styles.  The tags of markup are left out, and the cells of a table are
padded, so that the columns stand below each other.
-/
namespace TemplateLint

namespace Markup

/-- What a tag leaves behind: half of the backslashes in front of it, and the tag itself if one is left
over. -/
def release (m : Match) : Text :=
  let backslashes := m.group 1
  backslashes.take (backslashes.length / 2) ++
    if backslashes.length % 2 = 1 then m.group 2 else []

/-- A text without the tags of its markup. -/
def plain (markup : Text) : Text := tag.replaceAll release markup

end Markup

namespace Display

/-- The widths that the columns of a table need. -/
def widths (rows : List (List Text)) : List Nat :=
  match rows.map fun row => row.map List.length with
  | [] => []
  | first :: more => more.foldl (List.zipWith max) first

/-- A cell filled up with spaces. -/
def padded (width : Nat) (cell : Text) : Text :=
  cell ++ List.replicate (width - cell.length) ' '

/-- The lines of a table. -/
def tableLines (rows : List (List Text)) : List Text :=
  rows.map fun row =>
    Text.stripRight (("  " : Text).intercalate (List.zipWith padded (widths rows) row))

/-- The lines of a display. -/
def lines : Display → List Text
  | line markup => [Markup.plain markup]
  | panel text title => [Markup.plain title, Markup.plain text]
  | table columns rows =>
    tableLines (columns.map (·.header) :: rows.map fun row => row.map Markup.plain)

end Display

end TemplateLint
