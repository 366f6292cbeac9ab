import TemplateLint.Text.Basic
import TemplateLint.Text.Printable

/-!
# Quoted texts

A text in a message stands between single quotes, or between double quotes if it holds a single quote
and no double one.  The backslash, the quote in use and every character that is not printable are
written as escapes.
-/
namespace TemplateLint
namespace Quoted

/-- The small hexadecimal digit of a number below sixteen. -/
def hexDigit (n : Nat) : Char := Nat.digitChar n

/-- The last `width` hexadecimal digits of a number. -/
def hex : Nat → Nat → Text
  | 0, _ => []
  | width + 1, n => hex width (n / 16) ++ [hexDigit (n % 16)]

@[simp] theorem length_hex (width n : Nat) : (hex width n).length = width := by
  induction width generalizing n with
  | zero => rfl
  | succ width ih => rw [hex, List.length_append, ih, List.length_singleton]

/-- The escape of a character that is not printable, as wide as its number needs. -/
def numbered (c : Char) : Text :=
  if c.toNat < 0x100 then '\\' :: 'x' :: hex 2 c.toNat
  else if c.toNat < 0x10000 then '\\' :: 'u' :: hex 4 c.toNat
  else '\\' :: 'U' :: hex 8 c.toNat

/-- The written form of one character between the given quotes. -/
def escape (quote c : Char) : Text :=
  if c = quote ∨ c = '\\' then ['\\', c]
  else if c = '\n' then ['\\', 'n']
  else if c = '\r' then ['\\', 'r']
  else if c = '\t' then ['\\', 't']
  else if isPrintable c then [c]
  else numbered c

/-- The quote that a text is written between. -/
def quoteFor (text : Text) : Char :=
  if '\'' ∈ text ∧ '"' ∉ text then '"' else '\''

end Quoted

/-- The quoted form of a text. -/
def Text.quoted (text : Text) : Text :=
  let quote := Quoted.quoteFor text
  quote :: text.flatMap (Quoted.escape quote) ++ [quote]

end TemplateLint
