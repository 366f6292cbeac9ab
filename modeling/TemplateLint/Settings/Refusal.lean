import TemplateLint.Fault
import TemplateLint.Text.Quoted

/-!
# Refusals

Why given values do not make a record of settings.  Some are about the kind of a value, some about the
value itself, and some about an operation that cannot be carried out on the values.
-/
namespace TemplateLint

/-- Why given values do not make a record. -/
inductive Refusal where
  /-- The record has no such key. -/
  | unknownKey (record key : Text)
  /-- The key stands for the record itself. -/
  | reservedKey (record key : Text)
  /-- A value of this kind is not a list of names. -/
  | notIterable (kind : Text)
  /-- Values of these kinds have no order. -/
  | notComparable (operator left right : Text)
  /-- A date has no order with a date that has a time. -/
  | datesWithoutOrder
  /-- A moment with an offset has no order with one without. -/
  | offsetsWithoutOrder
  /-- Lists lie too deep within each other to be compared. -/
  | tooDeep
  /-- A moment does not stand for a name. -/
  | momentForName
  /-- Values of this kind do not have an operation that names have. -/
  | notAName (kind operation : Text)
  /-- A text stands where a list of names is wanted. -/
  | textForNames (field : Text)
  /-- A forbidden accessor is not an identifier; it is given as it is shown. -/
  | notAnIdentifier (shown : Text)
  /-- The value must be above zero. -/
  | notPositive (field : Text)
  /-- The value must not be below zero. -/
  | negative (field : Text)
  /-- The first value must not be below the second. -/
  | outOfOrder (greater lesser : Text)
  /-- The list must have an entry. -/
  | noEntries (field : Text)
  /-- Every suffix starts with a dot. -/
  | suffixWithoutDot
  /-- There is no such verbosity. -/
  | unknownVerbosity
deriving DecidableEq

/-- What a refusal is about. -/
inductive RefusalSort where
  | kind
  | value
  | operation
deriving DecidableEq

namespace Refusal

/-- What a refusal is about. -/
def sort : Refusal → RefusalSort
  | unknownKey .. | reservedKey .. | notIterable .. | notComparable .. | datesWithoutOrder
  | offsetsWithoutOrder | momentForName => .kind
  | notAName .. | tooDeep => .operation
  | _ => .value

/-- The wording of a refusal. -/
def message : Refusal → Text
  | unknownKey record key =>
    record ++ ".__init__() got an unexpected keyword argument '" ++ key ++ "'"
  | reservedKey record key =>
    record ++ ".__init__() got multiple values for argument '" ++ key ++ "'"
  | notIterable kind => "'" ++ kind ++ "' object is not iterable"
  | notComparable operator left right => Fault.comparisonText operator left right
  | datesWithoutOrder => "can't compare datetime.datetime to datetime.date"
  | offsetsWithoutOrder => "can't compare offset-naive and offset-aware datetimes"
  | tooDeep => "maximum recursion depth exceeded in comparison"
  | momentForName => "'str' object cannot be interpreted as an integer"
  | notAName kind operation => "'" ++ kind ++ "' object has no attribute '" ++ operation ++ "'"
  | textForNames field => field ++ " must be a list of names, not a string"
  | notAnIdentifier shown => "forbidden_accessors entry " ++ shown ++ " is not an identifier"
  | notPositive field => field ++ " must be positive"
  | negative field => field ++ " must be non-negative"
  | outOfOrder greater lesser => greater ++ " must be >= " ++ lesser
  | noEntries field => field ++ " must not be empty"
  | suffixWithoutDot => "template_suffixes entries must start with '.'"
  | unknownVerbosity => "verbosity must be one of quiet, normal, verbose"

end Refusal

end TemplateLint
