import TemplateLint.Number.Binary64
import TemplateLint.Text.Basic

/-!
# Decimal forms

The fewest digits that read back as a number, found on the decimal grids of one, two, and up to
seventeen digits: on each grid only the two neighbours of the number have to be tried.  A rounded form
with a given number of digits is beside it.
-/
namespace TemplateLint

/-- Significant digits with the exponent of the first one. -/
structure Decimal where
  digits : Text
  exponent : Int
deriving DecidableEq

namespace Decimal

/-- The numerator and the denominator of `units * 10 ^ shift`, in ones. -/
def scaled (units : Nat) (shift : Int) : Nat × Nat :=
  match shift with
  | .ofNat e => (units * tenTo e, Binary64.unitsPerOne)
  | .negSucc e => (units, Binary64.unitsPerOne * tenTo (e + 1))

/-- The count is at least that of `10 ^ exponent`. -/
def reaches (units : Nat) (exponent : Int) : Bool :=
  let (num, den) := scaled units (-exponent)
  den ≤ num

/-- The exponent of the first digit of a positive count, searched upward from a low estimate. -/
def leading (units : Nat) : Int :=
  let estimate : Int := ((Nat.log2 units : Int) - 1074) * 30103 / 100000 - 1
  if reaches units (estimate + 2) then estimate + 2
  else if reaches units (estimate + 1) then estimate + 1
  else estimate

/-- Digits without zeros at their end; a grid point of one digit more moves the exponent. -/
def ofGrid (count : Nat) (point : Nat) (exponent : Int) : Decimal :=
  let digits := Text.ofNat point
  ⟨(digits.reverse.dropWhile (· == '0')).reverse, exponent + ((digits.length : Int) - count)⟩

/-- The grid point reads back as the count. -/
def readsBack (units point : Nat) (shift : Int) : Bool :=
  Binary64.ofDecimal false point (-shift) == Binary64.finite false units

/-- The point on the grid of `count` digits that reads back, the nearer one if both neighbours do. -/
def onGrid? (units : Nat) (exponent : Int) (count : Nat) : Option Decimal :=
  let shift : Int := (count : Int) - 1 - exponent
  let (num, den) := scaled units shift
  let low := num / den
  let below := readsBack units low shift
  let above := readsBack units (low + 1) shift
  if below && above then some (ofGrid count (roundQuotient num den) exponent)
  else if below then some (ofGrid count low exponent)
  else if above then some (ofGrid count (low + 1) exponent)
  else none

/-- The fewest digits that read back as a positive count. -/
def shortest (units : Nat) : Decimal :=
  let exponent := leading units
  ((List.range 17).findSome? fun n => onGrid? units exponent (n + 1)).getD ⟨['0'], 0⟩

/-- The digits of a positive count rounded to `count` of them, a tie going to the even digit. -/
def rounded (units count : Nat) : Decimal :=
  let exponent := leading units
  let (num, den) := scaled units ((count : Int) - 1 - exponent)
  ofGrid count (roundQuotient num den) exponent

/-- How digits are laid out: the exponents that are written positionally lie from `-4` to below
`positional`, and a whole number keeps one zero behind the point if `keepsPoint`. -/
structure Layout where
  positional : Int
  keepsPoint : Bool

/-- The exponent with its sign and at least two digits. -/
def exponentText (exponent : Int) : Text :=
  let digits := Text.ofNat exponent.natAbs
  (if exponent < 0 then ['e', '-'] else ['e', '+']) ++
    (if digits.length < 2 then '0' :: digits else digits)

/-- The text of some digits. -/
def layOut (layout : Layout) (d : Decimal) : Text :=
  if -4 ≤ d.exponent ∧ d.exponent < layout.positional then
    match d.exponent with
    | .ofNat e =>
      let whole := d.digits.take (e + 1)
      let part := d.digits.drop (e + 1)
      whole ++ List.replicate (e + 1 - d.digits.length) '0' ++
        (if part.isEmpty then (if layout.keepsPoint then ['.', '0'] else []) else '.' :: part)
    | .negSucc e => ['0', '.'] ++ List.replicate e '0' ++ d.digits
  else
    (match d.digits with
      | [] => []
      | first :: more => first :: (if more.isEmpty then [] else '.' :: more)) ++
      exponentText d.exponent

end Decimal

namespace Binary64

/-- Full forms are positional below ten to the sixteenth and keep their point. -/
def fullLayout : Decimal.Layout := ⟨16, true⟩

/-- Short forms have six digits, are positional below ten to the sixth and drop the point. -/
def shortLayout : Decimal.Layout := ⟨6, false⟩

/-- The text of a number from a way to find its digits. -/
def textWith (layout : Decimal.Layout) (digits : Nat → Decimal) : Binary64 → Text
  | nan => "nan"
  | infinite negative => if negative then "-inf" else "inf"
  | finite negative units =>
    (if negative then ['-'] else []) ++
      Decimal.layOut layout (if units = 0 then ⟨['0'], 0⟩ else digits units)

/-- The full form: the fewest digits that read back. -/
def toText (x : Binary64) : Text := textWith fullLayout Decimal.shortest x

/-- The short form: six significant digits. -/
def toShortText (x : Binary64) : Text := textWith shortLayout (Decimal.rounded · 6) x

end Binary64

end TemplateLint
