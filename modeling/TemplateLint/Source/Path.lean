import TemplateLint.Text.Basic

/-!
# Paths

A path is a list of names below an anchor.  Empty names and the dot do not count; two dots are kept,
because they only mean something in a tree.
-/
namespace TemplateLint

/-- A path: its anchor, which is empty unless the path is absolute, and its names. -/
structure Path where
  anchor : Text
  parts : List Text
deriving DecidableEq

namespace Path

/-- The anchor of a written path; exactly two slashes are an anchor of their own. -/
def anchorOf : Text → Text
  | '/' :: '/' :: '/' :: _ => ['/']
  | '/' :: '/' :: _ => ['/', '/']
  | '/' :: _ => ['/']
  | _ => []

/-- The path that a text writes. -/
def ofText (text : Text) : Path :=
  ⟨anchorOf text, (List.splitOn '/' text).filter fun part => part ≠ [] ∧ part ≠ ['.']⟩

/-- The character that ends every path, and so is in none that leads anywhere. -/
def terminator : Char := Char.ofNat 0

/-- A text that ends in a slash or in a dot name can only mean a folder. -/
def meansFolder (text : Text) : Bool :=
  let last := (List.splitOn '/' text).getLastD []
  last = [] || last = ['.']

/-- The text of a path; a path without names is a dot. -/
def toText (p : Path) : Text :=
  if p.anchor = [] ∧ p.parts = [] then ['.'] else p.anchor ++ ['/'].intercalate p.parts

/-- The path starts at an anchor. -/
def isAbsolute (p : Path) : Bool := !p.anchor.isEmpty

/-- The path below another one; an absolute path stays as it is. -/
def under (base p : Path) : Path :=
  if p.isAbsolute then p else ⟨base.anchor, base.parts ++ p.parts⟩

/-- The path without two dots: each of them takes back the name before it. -/
def collapse (p : Path) : Path :=
  ⟨p.anchor,
    (p.parts.foldl (fun done part => if part = ['.', '.'] then done.tail else part :: done)
      []).reverse⟩

/-- The order of two lists of names, name by name. -/
def partsLe : List Text → List Text → Bool
  | [], _ => true
  | _ :: _, [] => false
  | a :: s, b :: t => if a = b then partsLe s t else Text.le a b

end Path

end TemplateLint
