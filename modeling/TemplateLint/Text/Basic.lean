/-!
# Texts

A text is a list of characters, so every offset, length and cut counts characters.  A character is a
code point that stands for itself: half of a surrogate pair is none, so every text can be written in
UTF-8.  Splitting a text makes one piece more than there are separators (`length_splitOn`).
-/
namespace TemplateLint

/-- A text, one entry for each character. -/
abbrev Text := List Char

instance : Coe String Text := ⟨String.toList⟩

namespace Text

/-- Whether a text is one of some texts is decided by comparing it with each. -/
instance decidableMem (text : Text) (texts : List Text) : Decidable (text ∈ texts) :=
  inferInstance

/-- The decimal form of a number. -/
def ofNat (n : Nat) : Text := Nat.toDigits 10 n

/-- The decimal form of an integer. -/
def ofInt : Int → Text
  | .ofNat n => ofNat n
  | .negSucc n => '-' :: ofNat (n + 1)

/-- The lines of a text, without their line ends. -/
def lines (text : Text) : List Text := text.splitOn '\n'

/-- The number of lines: one more than there are line ends. -/
def lineCount (text : Text) : Nat := text.count '\n' + 1

/-- The characters from one offset up to another. -/
def slice (text : Text) (start stop : Nat) : Text := (text.drop start).take (stop - start)

/-- The offset at which a text first occurs in another. -/
def indexOf? (wanted : Text) : Text → Option Nat
  | [] => if wanted.isEmpty then some 0 else none
  | c :: rest =>
    if wanted.isPrefixOf (c :: rest) then some 0 else (indexOf? wanted rest).map (· + 1)

/-- One text occurs in another. -/
def contains (text wanted : Text) : Bool := (indexOf? wanted text).isSome

/-- The part before the first separator, and the part behind it if there is one. -/
def cutAt (separator : Char) : Text → Text × Option Text
  | [] => ([], none)
  | c :: rest =>
    if c = separator then ([], some rest)
    else
      match cutAt separator rest with
      | (before, after) => (c :: before, after)

/-- The first characters, with dots if the text goes on. -/
def shorten (limit : Nat) (text : Text) : Text :=
  text.take limit ++ if limit < text.length then "..." else ""

/-- The order of two texts by the numbers of their characters, a shorter text first. -/
def le : Text → Text → Bool
  | [], _ => true
  | _ :: _, [] => false
  | a :: s, b :: t => if a = b then le s t else a.toNat < b.toNat

/-- A separator at the start stands behind an empty piece. -/
theorem splitOn_cons_self (separator : Char) (rest : Text) :
    (separator :: rest).splitOn separator = [] :: rest.splitOn separator := by
  rw [List.splitOn_cons_eq_if_modifyHead, if_pos BEq.rfl]

/-- Any other character belongs to the first piece. -/
theorem splitOn_cons_of_ne {separator c : Char} (h : c ≠ separator) {rest piece : Text}
    {pieces : List Text} (hr : rest.splitOn separator = piece :: pieces) :
    (c :: rest).splitOn separator = (c :: piece) :: pieces := by
  rw [List.splitOn_cons_eq_if_modifyHead, if_neg (by simpa using h), hr, List.modifyHead_cons]

/-- There is one piece more than there are separators. -/
theorem length_splitOn (separator : Char) (text : Text) :
    (text.splitOn separator).length = text.count separator + 1 := by
  induction text with
  | nil => rfl
  | cons c rest ih =>
    rw [List.splitOn_cons_eq_if_modifyHead, List.count_cons]
    split
    · rw [List.length_cons, ih]
    · rw [List.length_modifyHead, ih]

theorem length_lines (text : Text) : (lines text).length = lineCount text :=
  length_splitOn '\n' text

end Text

end TemplateLint
