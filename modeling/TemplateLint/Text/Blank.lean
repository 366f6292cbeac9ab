import TemplateLint.Text.Basic

/-!
# Blank characters

The white space of every script, and the cutting of it from the ends of a text.
-/
namespace TemplateLint

/-- The blank characters beyond ASCII. -/
def wideBlanks : List Nat :=
  [0x85, 0xA0, 0x1680, 0x2000, 0x2001, 0x2002, 0x2003, 0x2004, 0x2005, 0x2006, 0x2007, 0x2008,
    0x2009, 0x200A, 0x2028, 0x2029, 0x202F, 0x205F, 0x3000]

/-- White space: a space, a tab, a line end, an information separator, or a blank of another
script. -/
def isBlank (c : Char) : Bool :=
  if c.toNat < 128 then
    c.toNat == 32 || (9 ≤ c.toNat && c.toNat ≤ 13) || (28 ≤ c.toNat && c.toNat ≤ 31)
  else wideBlanks.contains c.toNat

namespace Text

/-- The text without the characters at its start that the test accepts. -/
def trimLeft (test : Char → Bool) (text : Text) : Text := text.dropWhile test

/-- The text without the characters at its end that the test accepts. -/
def trimRight (test : Char → Bool) (text : Text) : Text := (text.reverse.dropWhile test).reverse

/-- The text without blanks at its start. -/
def stripLeft (text : Text) : Text := trimLeft isBlank text

/-- The text without blanks at its end. -/
def stripRight (text : Text) : Text := trimRight isBlank text

/-- The text without blanks at either end. -/
def strip (text : Text) : Text := stripLeft (stripRight text)

end Text

end TemplateLint
