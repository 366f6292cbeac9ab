import TemplateLint.Fault
import TemplateLint.Number.Decimal

/-!
# Numbers

A number is an integer of any size or a binary floating-point number, and keeps its kind: integers
stay integers under sums, products and minima, and mix with the other kind by being converted first.
An integer that is too large to convert, and a conversion back that has no integer, are faults.
Comparisons are exact for every mixture.
-/
namespace TemplateLint

/-- The largest number of digits that an integer may have where it is read or written. -/
def digitLimit : Nat := 4300

/-- An integer or a floating-point number. -/
inductive Number where
  | int (value : Int)
  | real (value : Binary64)
deriving DecidableEq

namespace Number

instance (n : Nat) : OfNat Number n := ⟨int n⟩

/-- A floating-point number unless it is infinite. -/
def unlessInfinite (fault : Fault) : Binary64 → Except Fault Binary64
  | .infinite _ => .error fault
  | x => .ok x

/-- The floating-point number nearest to it. -/
def toReal : Number → Except Fault Binary64
  | real x => .ok x
  | int n => unlessInfinite .integerTooLarge (Binary64.ofQuotient (n < 0) n.natAbs 1)

/-- Applies an operation to two numbers, on integers if both are. -/
def combine (ints : Int → Int → Int) (reals : Binary64 → Binary64 → Binary64) :
    Number → Number → Except Fault Number
  | int m, int n => .ok (int (ints m n))
  | x, y => do
    let a ← x.toReal
    let b ← y.toReal
    pure (real (reals a b))

/-- The sum. -/
def add : Number → Number → Except Fault Number := combine (· + ·) Binary64.add

/-- The difference. -/
def sub : Number → Number → Except Fault Number := combine (· - ·) Binary64.sub

/-- The product. -/
def mul : Number → Number → Except Fault Number := combine (· * ·) Binary64.mul

/-- The quotient by a divisor that is not zero, always of the floating-point kind. -/
def divide : Number → Number → Except Fault Number
  | int n, int d =>
    (unlessInfinite .quotientTooLarge
      (Binary64.ofQuotient (decide (n < 0) != decide (d < 0)) n.natAbs d.natAbs)).map real
  | x, y => do
    let a ← x.toReal
    let b ← y.toReal
    pure (real ((a.div? b).getD .nan))

/-- An integer is less than a floating-point number. -/
def intLtReal (n : Int) : Binary64 → Bool
  | .nan => false
  | .infinite negative => !negative
  | .finite negative units => n * Binary64.unitsPerOne < Binary64.signed negative units

/-- A floating-point number is less than an integer. -/
def realLtInt (n : Int) : Binary64 → Bool
  | .nan => false
  | .infinite negative => negative
  | .finite negative units => Binary64.signed negative units < n * Binary64.unitsPerOne

/-- One number is less than another. -/
def lt : Number → Number → Bool
  | int m, int n => m < n
  | int m, real y => intLtReal m y
  | real x, int n => realLtInt n x
  | real x, real y => Binary64.lt x y

/-- An undefined number, which compares with nothing. -/
def isNan : Number → Bool
  | real .nan => true
  | _ => false

/-- One number is at most another. -/
def le (x y : Number) : Bool := !x.isNan && !y.isNan && !lt y x

/-- The smaller number; the first if neither is less. -/
def min (x y : Number) : Number := if lt y x then y else x

/-- The number rounded to some places; an integer stays as it is. -/
def round (places : Nat) : Number → Number
  | int n => int n
  | real x => real (x.roundPlaces places)

/-- The whole part. -/
def toInt : Number → Except Fault Int
  | int n => .ok n
  | real .nan => .error .nanHasNoInteger
  | real (.infinite _) => .error .infinityHasNoInteger
  | real (.finite negative units) => .ok (Binary64.truncate negative units)

/-- The text of a number. -/
def toText : Number → Text
  | int n => Text.ofInt n
  | real x => x.toText

/-- The number has not too many digits to be written. -/
def isWritable : Number → Bool
  | int n => n.natAbs < tenTo digitLimit
  | real _ => true

/-- The text of a number, if it can be written. -/
def written (n : Number) : Except Fault Text :=
  if n.isWritable then .ok n.toText else .error .tooLongToWrite

end Number

end TemplateLint
