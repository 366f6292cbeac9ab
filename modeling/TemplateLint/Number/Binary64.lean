/-!
# Binary floating point

A finite number is a sign and a count of units, a unit being the smallest positive number 2^-1074.
The counts that occur have at most fifty-three significant bits.  Every operation is exact arithmetic
on counts followed by one rounding to the nearest number, a tie going to the even one.  The order is
the order of signed counts.
-/
namespace TemplateLint

/-- A binary floating-point number of sixty-four bits. -/
inductive Binary64 where
  | finite (negative : Bool) (units : Nat)
  | infinite (negative : Bool)
  | nan
deriving DecidableEq

/-- The nearest natural number to a quotient, a tie going to the even one. -/
def roundQuotient (num den : Nat) : Nat :=
  let q := num / den
  let r := num % den
  if 2 * r < den then q
  else if den < 2 * r then q + 1
  else q + q % 2

/-- A power of two. -/
def twoTo (exponent : Nat) : Nat := Nat.pow 2 exponent

/-- A power of ten. -/
def tenTo (exponent : Nat) : Nat := Nat.pow 10 exponent

namespace Binary64

/-- The number of units in one. -/
def unitsPerOne : Nat := twoTo 1074

/-- The first count that is too large to be finite. -/
def unitsBound : Nat := twoTo 2098

/-- The nearest representable count to a quotient of counts, a tie going to the even one. -/
def roundUnits (num den : Nat) : Nat :=
  let bits := Nat.log2 (num / den)
  if bits < 53 then roundQuotient num den
  else
    let step := twoTo (bits - 52)
    roundQuotient num (den * step) * step

/-- The number with the given sign and count, infinite if the count is too large. -/
def ofUnits (negative : Bool) (units : Nat) : Binary64 :=
  if unitsBound ≤ units then infinite negative else finite negative units

/-- The number nearest to a quotient. -/
def ofQuotient (negative : Bool) (num den : Nat) : Binary64 :=
  ofUnits negative (roundUnits (num * unitsPerOne) den)

/-- The number nearest to `digits * 10 ^ exponent`.  An exponent that is certain to leave the range is
decided without computing the power. -/
def ofDecimal (negative : Bool) (digits : Nat) (exponent : Int) : Binary64 :=
  let size : Int := (Nat.toDigits 10 digits).length
  if digits = 0 then finite negative 0
  else if 400 < size + exponent then infinite negative
  else if size + exponent < -400 then finite negative 0
  else
    match exponent with
    | .ofNat e => ofQuotient negative (digits * tenTo e) 1
    | .negSucc e => ofQuotient negative digits (tenTo (e + 1))

/-- The signed count of a finite number. -/
def signed (negative : Bool) (units : Nat) : Int :=
  if negative then -(units : Int) else units

/-- The number with a signed count; `zeroNegative` is the sign of a zero. -/
def ofSigned (zeroNegative : Bool) (units : Int) : Binary64 :=
  if units = 0 then finite zeroNegative 0
  else ofUnits (units < 0) (roundUnits units.natAbs 1)

/-- The sum. -/
def add : Binary64 → Binary64 → Binary64
  | nan, _ | _, nan => nan
  | infinite s, infinite t => if s = t then infinite s else nan
  | infinite s, finite _ _ | finite _ _, infinite s => infinite s
  | finite s m, finite t n => ofSigned (s && t) (signed s m + signed t n)

/-- The product. -/
def mul : Binary64 → Binary64 → Binary64
  | nan, _ | _, nan => nan
  | infinite s, infinite t => infinite (s != t)
  | infinite s, finite t n | finite t n, infinite s => if n = 0 then nan else infinite (s != t)
  | finite s m, finite t n => ofUnits (s != t) (roundUnits (m * n) unitsPerOne)

/-- The negated number. -/
def neg : Binary64 → Binary64
  | nan => nan
  | infinite s => infinite !s
  | finite s m => finite (!s) m

/-- The difference. -/
def sub (x y : Binary64) : Binary64 := add x (neg y)

/-- The quotient, if the divisor is not zero. -/
def div? : Binary64 → Binary64 → Option Binary64
  | _, finite _ 0 => none
  | nan, _ | _, nan => some nan
  | infinite _, infinite _ => some nan
  | infinite s, finite t _ => some (infinite (s != t))
  | finite s _, infinite t => some (finite (s != t) 0)
  | finite s m, finite t n => some (ofQuotient (s != t) m n)

/-- The number nearest to a natural number with `places` digits behind the point, rounded there with a
tie going to the even digit. -/
def roundPlaces (places : Nat) : Binary64 → Binary64
  | finite s m => ofQuotient s (roundQuotient (m * tenTo places) unitsPerOne) (tenTo places)
  | x => x

/-- One number is less than another. -/
def lt : Binary64 → Binary64 → Bool
  | nan, _ | _, nan => false
  | infinite s, infinite t => s && !t
  | infinite s, finite _ _ => s
  | finite _ _, infinite t => !t
  | finite s m, finite t n => signed s m < signed t n

/-- Two numbers are equal in value. -/
def eq : Binary64 → Binary64 → Bool
  | nan, _ | _, nan => false
  | infinite s, infinite t => s == t
  | finite s m, finite t n => signed s m == signed t n
  | _, _ => false

/-- A finite number that no integer separates from zero is cut to zero; the whole part of another. -/
def truncate (negative : Bool) (units : Nat) : Int := signed negative (units / unitsPerOne)

end Binary64

end TemplateLint
