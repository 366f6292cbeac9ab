import TemplateLint.Text.Basic

/-!
# Faults

Why a computation has no answer.  Some faults come from numbers and places that do not exist, and some
from a value of a kind that the computation has no use for.
-/
namespace TemplateLint

/-- Why a computation has no answer. -/
inductive Fault where
  /-- An entry of an empty list was asked for. -/
  | indexOutOfRange
  /-- A character in front of a text was asked for. -/
  | offsetOutOfRange
  /-- A run of digits is too long to be read as an integer. -/
  | tooManyDigits (count : Nat)
  /-- An integer has too many digits to be written. -/
  | tooLongToWrite
  /-- An integer is beyond every floating-point number. -/
  | integerTooLarge
  /-- The quotient of two integers is beyond every floating-point number. -/
  | quotientTooLarge
  /-- An infinite number has no whole part. -/
  | infinityHasNoInteger
  /-- An undefined number has no whole part. -/
  | nanHasNoInteger
  /-- A path holds the character that ends every path. -/
  | nullInPath
  /-- Values of these kinds have no order. -/
  | notComparable (operator left right : Text)
  /-- A value of this kind has no spelling. -/
  | notSpelled (kind : Text)
  /-- A value of this kind does not occur in a text. -/
  | notSearchable (kind : Text)
  /-- A value of this kind has no length. -/
  | noLength (kind : Text)
  /-- A value of this kind is no key of a table. -/
  | notAKey (kind : Text)
  /-- A value of this kind is no path. -/
  | notAPath (kind : Text)
  /-- A list cannot be cut at such a value. -/
  | notABound
deriving DecidableEq

/-- What a fault is about. -/
inductive FaultSort where
  | index
  | value
  | overflow
  | kind
deriving DecidableEq

namespace Fault

/-- What a fault is about. -/
def sort : Fault → FaultSort
  | indexOutOfRange | offsetOutOfRange => .index
  | tooManyDigits _ | tooLongToWrite | nanHasNoInteger | nullInPath => .value
  | integerTooLarge | quotientTooLarge | infinityHasNoInteger => .overflow
  | _ => .kind

/-- The wording of the fault that values of two kinds have no order. -/
def comparisonText (operator left right : Text) : Text :=
  "'" ++ operator ++ "' not supported between instances of '" ++ left ++ "' and '" ++ right ++ "'"

/-- The wording of a fault. -/
def message : Fault → Text
  | indexOutOfRange => "list index out of range"
  | offsetOutOfRange => "string index out of range"
  | tooManyDigits count =>
    "Exceeds the limit (4300 digits) for integer string conversion: value has " ++
      Text.ofNat count ++ " digits; use sys.set_int_max_str_digits() to increase the limit"
  | tooLongToWrite =>
    "Exceeds the limit (4300 digits) for integer string conversion; " ++
      "use sys.set_int_max_str_digits() to increase the limit"
  | integerTooLarge => "int too large to convert to float"
  | quotientTooLarge => "integer division result too large for a float"
  | infinityHasNoInteger => "cannot convert float infinity to integer"
  | nanHasNoInteger => "cannot convert float NaN to integer"
  | nullInPath => "embedded null byte"
  | notComparable operator left right => comparisonText operator left right
  | notSpelled kind => "decoding to str: need a bytes-like object, " ++ kind ++ " found"
  | notSearchable kind => "'in <string>' requires string as left operand, not " ++ kind
  | noLength kind => "object of type '" ++ kind ++ "' has no len()"
  | notAKey kind => "unhashable type: '" ++ kind ++ "'"
  | notAPath kind => "expected str, bytes or os.PathLike object, not " ++ kind
  | notABound => "slice indices must be integers or None or have an __index__ method"

end Fault

end TemplateLint
