import TemplateLint.Number.Basic
import TemplateLint.Text.Quoted

/-!
# Values

A value of any kind, as it stands in a settings file or among the details of a finding.  A yes or no
counts as one or zero where a number is wanted.  Equality is decided by going through both values
(`agrees_iff`).
-/
namespace TemplateLint

/-- What a moment tells. -/
inductive MomentKind where
  | date
  | time
  /-- A date with a time but no offset. -/
  | localTime
  /-- A date with a time and an offset. -/
  | exactTime
deriving DecidableEq

/-- A value of any kind. -/
inductive Value where
  | null
  | flag (value : Bool)
  | number (value : Number)
  | text (value : Text)
  /-- A moment by its place in the order of the moments of its kind. -/
  | moment (kind : MomentKind) (position : Int)
  | list (values : List Value)
  | table (entries : List (Text × Value))

namespace Value

mutual

/-- Two values are equal. -/
def agrees : Value → Value → Bool
  | null, null => true
  | flag a, flag b => a = b
  | number m, number n => m = n
  | text s, text t => s = t
  | moment k p, moment l q => k = l && p = q
  | list xs, list ys => agreesAll xs ys
  | table xs, table ys => agreesEntries xs ys
  | _, _ => false

/-- Two lists are equal. -/
def agreesAll : List Value → List Value → Bool
  | [], [] => true
  | x :: xs, y :: ys => agrees x y && agreesAll xs ys
  | _, _ => false

/-- Two tables are equal. -/
def agreesEntries : List (Text × Value) → List (Text × Value) → Bool
  | [], [] => true
  | (k, x) :: xs, (l, y) :: ys => k = l && agrees x y && agreesEntries xs ys
  | _, _ => false

end

mutual

/-- Equality is decided. -/
theorem agrees_iff : ∀ x y : Value, agrees x y = true ↔ x = y
  | null, y => by cases y <;> simp [agrees]
  | flag a, y => by cases y <;> simp [agrees]
  | number n, y => by cases y <;> simp [agrees]
  | text t, y => by cases y <;> simp [agrees]
  | moment k p, y => by cases y <;> simp [agrees]
  | list xs, y => by cases y <;> simp [agrees, agreesAll_iff xs]
  | table xs, y => by cases y <;> simp [agrees, agreesEntries_iff xs]

theorem agreesAll_iff : ∀ xs ys : List Value, agreesAll xs ys = true ↔ xs = ys
  | [], ys => by cases ys <;> simp [agreesAll]
  | x :: xs, ys => by cases ys <;> simp [agreesAll, agrees_iff x, agreesAll_iff xs]

theorem agreesEntries_iff : ∀ xs ys : List (Text × Value), agreesEntries xs ys = true ↔ xs = ys
  | [], ys => by cases ys <;> simp [agreesEntries]
  | (k, x) :: xs, ys => by
    rcases ys with _ | ⟨⟨l, y⟩, ys⟩ <;>
      simp [agreesEntries, agrees_iff x, agreesEntries_iff xs]

end

instance : DecidableEq Value := fun x y => decidable_of_iff _ (agrees_iff x y)

instance (n : Nat) : OfNat Value n := ⟨number (OfNat.ofNat n)⟩

instance : Coe Number Value := ⟨number⟩

instance : Coe (List Text) (List Value) := ⟨List.map text⟩

/-- A number of things. -/
def count (n : Nat) : Value := number (.int n)

/-- A list of texts. -/
def names (texts : List Text) : Value := list (texts.map text)

/-- The kind of a value, as messages show it. -/
def kind : Value → Text
  | null => "NoneType"
  | flag _ => "bool"
  | number (.int _) => "int"
  | number (.real _) => "float"
  | text _ => "str"
  | moment .date _ => "datetime.date"
  | moment .time _ => "datetime.time"
  | moment _ _ => "datetime.datetime"
  | list _ => "list"
  | table _ => "dict"

/-- The kind of a value without what it belongs to. -/
def shortKind (v : Value) : Text := (List.splitOn '.' v.kind).getLastD []

/-- The value counts as a yes. -/
def holds : Value → Bool
  | null => false
  | flag b => b
  | number (.int n) => n ≠ 0
  | number (.real (.finite _ units)) => units ≠ 0
  | number (.real _) => true
  | text t => !t.isEmpty
  | moment _ _ => true
  | list values => !values.isEmpty
  | table entries => !entries.isEmpty

/-- The number that a value stands for. -/
def toNumber? : Value → Option Number
  | number n => some n
  | flag b => some (.int (if b then 1 else 0))
  | _ => none

/-- The text that a value is. -/
def toText? : Value → Option Text
  | text t => some t
  | _ => none

mutual

/-- A value as messages show it. -/
def shown : Value → Text
  | null => "None"
  | flag b => if b then "True" else "False"
  | number n => n.toText
  | text t => t.quoted
  | moment _ n => Text.ofInt n
  | list values => '[' :: ((", " : Text).intercalate (shownAll values) ++ [']'])
  | table entries => '\x7b' :: ((", " : Text).intercalate (shownEntries entries) ++ ['\x7d'])

/-- The values of a list as messages show them. -/
def shownAll : List Value → List Text
  | [] => []
  | v :: rest => shown v :: shownAll rest

/-- The entries of a table as messages show them. -/
def shownEntries : List (Text × Value) → List Text
  | [] => []
  | (key, v) :: rest => (key.quoted ++ String.toList ": " ++ shown v) :: shownEntries rest

end

/-- A value that holds no others as messages show it, if it can be written. -/
def written : Value → Except Fault Text
  | number n => n.written
  | v => .ok v.shown

/-- A value as it is told: a text by itself, everything else as messages show it. -/
def told : Value → Text
  | text t => t
  | v => v.shown

/-- The texts among some values. -/
def textsOf (values : List Value) : List Text := values.filterMap toText?

/-- The texts in a list. -/
def texts : Value → List Text
  | list values => textsOf values
  | _ => []

/-- The value is a text. -/
def isText (v : Value) : Bool := v.toText?.isSome

/-- The value is a number or counts as one. -/
def isNumber (v : Value) : Bool := v.toNumber?.isSome

/-- The fault that a number and a value have no order. -/
def unordered (operator : Text) (n : Number) (v : Value) : Fault :=
  .notComparable operator (number n).kind v.kind

/-- The fault of a value that is no key of a table. -/
def keyFault? : Value → Option Fault
  | list values => some (.notAKey (list values).kind)
  | table entries => some (.notAKey (table entries).kind)
  | _ => none

/-- The number is greater than the value. -/
def isBelow (v : Value) (n : Number) : Except Fault Bool :=
  match v.toNumber? with
  | some limit => .ok (limit.lt n)
  | none => .error (unordered ">" n v)

/-- The number is not at most the value. -/
def isExceededBy (v : Value) (n : Number) : Except Fault Bool :=
  match v.toNumber? with
  | some limit => .ok (!n.le limit)
  | none => .error (unordered "<=" n v)

end Value

end TemplateLint
