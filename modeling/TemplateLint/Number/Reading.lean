import TemplateLint.Number.Basic
import TemplateLint.Text.Blank
import TemplateLint.Text.Digits
import TemplateLint.Text.Quoted

/-!
# Reading numbers

Integers and floating-point numbers as people type them: blanks around them do not count, except the
information separators, single underscores may stand between digits, and digits of every script are
read.
-/
namespace TemplateLint

/-- The value of some digits, the first of them weighing most; what is no digit counts as zero. -/
def digitsValue (digits : Text) : Nat :=
  digits.foldl (fun value c => value * 10 + (digitValue? c).getD 0) 0

/-- The integer that a run of digits stands for, if the run is not too long. -/
def readDigits (digits : Text) : Except Fault Nat :=
  if digitLimit < digits.length then .error (.tooManyDigits digits.length)
  else .ok (digitsValue digits)

/-- A blank that may stand around a number; an information separator may not. -/
def isPadding (c : Char) : Bool := isBlank c && !(28 ≤ c.toNat && c.toNat ≤ 31)

/-- A text without the blanks that may stand around a number. -/
def unpadded (text : Text) : Text := Text.trimLeft isPadding (Text.trimRight isPadding text)

/-- A sign at the start of a text, and what follows it. -/
def cutSign : Text → Bool × Text
  | '-' :: rest => (true, rest)
  | '+' :: rest => (false, rest)
  | rest => (false, rest)

/-- The digits of a run in which single underscores may stand between digits; none if the run is empty
or an underscore stands elsewhere. -/
def plainDigits? : Text → Option Text
  | [] => none
  | [c] => if isDecimal c then some [c] else none
  | c :: '_' :: rest => if isDecimal c then (plainDigits? rest).map (c :: ·) else none
  | c :: rest => if isDecimal c then (plainDigits? rest).map (c :: ·) else none

/-- Why a text is not a number. -/
inductive ReadError where
  | notAnInteger (text : Text)
  | tooLong (fault : Fault)
  | notAReal (text : Text)
deriving DecidableEq

namespace ReadError

/-- The wording of the reason; a text that is no integer is shown up to a limit. -/
def message : ReadError → Text
  | notAnInteger text => "invalid literal for int() with base 10: " ++ text.quoted.take 200
  | tooLong fault => fault.message
  | notAReal text => "could not convert string to float: " ++ text.quoted

end ReadError

/-- The integer that a text stands for.  A run of digits that is too long is told even if something
else follows it. -/
def readInt (text : Text) : Except ReadError Int :=
  let (negative, body) := cutSign (unpadded text)
  let run := body.takeWhile fun c => isDecimal c || c == '_'
  match plainDigits? run with
  | none => .error (.notAnInteger text)
  | some digits =>
    match readDigits digits with
    | .error fault => .error (.tooLong fault)
    | .ok n =>
      if run.length = body.length then .ok (if negative then -(n : Int) else n)
      else .error (.notAnInteger text)

/-- A run of digits that may be missing. -/
def optionalDigits? (text : Text) : Option Text :=
  if text.isEmpty then some [] else plainDigits? text

/-- The exponent written in a text. -/
def readExponent? (text : Text) : Option Int :=
  let (negative, digits) := cutSign text
  (plainDigits? digits).map fun d => if negative then -(digitsValue d : Int) else digitsValue d

/-- The floating-point number with the given whole digits, digits behind the point and exponent. -/
def assemble (negative : Bool) (whole part : Text) (exponent : Int) : Binary64 :=
  Binary64.ofDecimal negative (digitsValue (whole ++ part)) (exponent - part.length)

/-- The floating-point number that a text of digits, a point and an exponent stands for. -/
def readDecimal? (negative : Bool) (body : Text) : Option Binary64 :=
  let mantissa := body.takeWhile fun c => c != 'e' && c != 'E'
  let exponent :=
    match body.drop mantissa.length with
    | [] => some 0
    | _ :: rest => readExponent? rest
  match Text.cutAt '.' mantissa with
  | (whole, none) => do assemble negative (← plainDigits? whole) [] (← exponent)
  | (whole, some part) =>
    if whole.isEmpty && part.isEmpty then none
    else do
      assemble negative (← optionalDigits? whole) (← optionalDigits? part) (← exponent)

/-- The floating-point number that a text stands for. -/
def readReal (text : Text) : Except ReadError Binary64 :=
  let (negative, body) := cutSign (unpadded text)
  let word := body.map Char.toLower
  if word = String.toList "inf" ∨ word = String.toList "infinity" then .ok (.infinite negative)
  else if word = String.toList "nan" then .ok .nan
  else
    match readDecimal? negative body with
    | some x => .ok x
    | none => .error (.notAReal text)

end TemplateLint
