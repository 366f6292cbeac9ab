import TemplateLint.Number.Reading
import TemplateLint.Settings.Order
import TemplateLint.Toml.Quoted

/-!
# Numbers and moments

Numbers may have single underscores between their digits.  A moment is a date, a time or both, and is
kept as its place in the order of the moments of its kind.
-/
namespace TemplateLint
namespace Toml

/-- A decimal digit. -/
def isDigit (c : Char) : Bool := '0' ≤ c && c ≤ '9'

/-- The digits behind a first one, each with an underscore in front of it or not, and what follows. -/
def moreDigits (accepts : Char → Bool) : Text → Text × Text
  | '_' :: c :: rest =>
    if accepts c then
      let (digits, rest) := moreDigits accepts rest
      (c :: digits, rest)
    else ([], '_' :: c :: rest)
  | c :: rest =>
    if accepts c then
      let (digits, rest) := moreDigits accepts rest
      (c :: digits, rest)
    else ([], c :: rest)
  | [] => ([], [])

/-- A run of digits, if one starts here. -/
def digitRun? (accepts : Char → Bool) : Text → Option (Text × Text)
  | [] => none
  | c :: rest =>
    if accepts c then
      let (digits, rest) := moreDigits accepts rest
      some (c :: digits, rest)
    else none

/-- The digits of a number system, and its base, by the letter that announces it. -/
def system? : Char → Option ((Char → Bool) × Nat)
  | 'x' => some (fun c => (hexValue? c).isSome, 16)
  | 'b' => some (fun c => c == '0' || c == '1', 2)
  | 'o' => some (fun c => '0' ≤ c && c ≤ '7', 8)
  | _ => none

/-- An integer of another number system than the decimal one. -/
def announced? : Text → Option (Int × Text)
  | '0' :: letter :: text => do
    let (accepts, base) ← system? letter
    let (digits, rest) ← digitRun? accepts text
    some (digits.foldl (fun n c => n * base + (hexValue? c).getD 0) 0, rest)
  | _ => none

/-- The whole digits of a decimal number: a zero, or digits without a zero in front. -/
def wholeDigits? : Text → Option (Text × Text)
  | '0' :: rest => some (['0'], rest)
  | text => digitRun? isDigit text

/-- The digits behind the point, if there are any. -/
def fraction? : Text → Option (Text × Text)
  | '.' :: text => digitRun? isDigit text
  | _ => none

/-- The exponent, if there is one. -/
def exponent? : Text → Option (Int × Text)
  | [] => none
  | c :: text =>
    if c = 'e' ∨ c = 'E' then do
      let (negative, text) := cutSign text
      let (digits, rest) ← digitRun? isDigit text
      some (if negative then -(digitsValue digits : Int) else digitsValue digits, rest)
    else none

/-- Reads a decimal number; it is a floating-point number if it has a fraction or an exponent. -/
def readDecimal? (text : Text) : Option (Except Flaw (Number × Text)) := do
  let (negative, text) := cutSign text
  let (whole, rest) ← wholeDigits? text
  let fraction := fraction? rest
  let (part, rest) := fraction.getD ([], rest)
  let exponent := exponent? rest
  let (power, rest) := exponent.getD (0, rest)
  if fraction.isSome || exponent.isSome then
    some (.ok (.real (assemble negative whole part power), rest))
  else
    match readDigits whole with
    | .error fault => some (.error (.tooManyDigits fault))
    | .ok n => some (.ok (.int (if negative then -(n : Int) else n), rest))

/-- Reads a floating-point number that is written as a word. -/
def readWord? (text : Text) : Option (Number × Text) :=
  let (negative, body) := cutSign text
  match body with
  | 'i' :: 'n' :: 'f' :: rest => some (.real (.infinite negative), rest)
  | 'n' :: 'a' :: 'n' :: rest => some (.real .nan, rest)
  | _ => none

/-- A number of two digits. -/
def twoDigits? : Text → Option (Nat × Text)
  | a :: b :: rest => if isDigit a && isDigit b then some (digitsValue [a, b], rest) else none
  | _ => none

/-- The text behind a character, if it starts with it. -/
def behind? (wanted : Char) : Text → Option Text
  | c :: rest => if c = wanted then some rest else none
  | [] => none

/-- A leap year has a day more. -/
def isLeap (year : Nat) : Bool := year % 4 = 0 && (year % 100 ≠ 0 || year % 400 = 0)

/-- The days of the months of a year. -/
def monthLengths (year : Nat) : List Nat :=
  [31, if isLeap year then 29 else 28, 31, 30, 31, 30, 31, 31, 30, 31, 30, 31]

/-- The number of days before a day of a year that is not the year zero. -/
def dayNumber (year month day : Nat) : Nat :=
  let before := year - 1
  365 * before + before / 4 - before / 100 + before / 400 +
    ((monthLengths year).take (month - 1)).foldl (· + ·) 0 + day

/-- What is written as a date: year, month and day. -/
def dateParts? (text : Text) : Option ((Nat × Nat × Nat) × Text) := do
  let (century, text) ← twoDigits? text
  let (year, text) ← twoDigits? text
  let (month, text) ← twoDigits? (← behind? '-' text)
  let (day, rest) ← twoDigits? (← behind? '-' text)
  some ((century * 100 + year, month, day), rest)

/-- There is such a day. -/
def isDay (year month day : Nat) : Bool :=
  1 ≤ year && 1 ≤ month && 1 ≤ day && day ≤ ((monthLengths year)[month - 1]?).getD 0

/-- The millionths of a second behind a point; digits behind the sixth do not count. -/
def readMicros : Text → Nat × Text
  | '.' :: text =>
    let digits := text.takeWhile isDigit
    if digits.isEmpty then (0, '.' :: text)
    else (digitsValue ((digits ++ List.replicate 6 '0').take 6), text.drop digits.length)
  | text => (0, text)

/-- Reads a time of day in millionths of a second. -/
def readTime? (text : Text) : Option (Nat × Text) := do
  let (hour, text) ← twoDigits? text
  let (minute, text) ← twoDigits? (← behind? ':' text)
  let (second, text) ← twoDigits? (← behind? ':' text)
  if hour < 24 ∧ minute < 60 ∧ second < 60 then
    let (micros, rest) := readMicros text
    some (((hour * 60 + minute) * 60 + second) * 1000000 + micros, rest)
  else none

/-- Reads how far a clock is ahead, in minutes. -/
def readOffset? : Text → Option (Int × Text)
  | [] => none
  | c :: text =>
    if c = 'Z' ∨ c = 'z' then some (0, text)
    else if c = '+' ∨ c = '-' then do
      let (hour, text) ← twoDigits? text
      let (minute, rest) ← twoDigits? (← behind? ':' text)
      let minutes : Int := hour * 60 + minute
      if hour < 24 ∧ minute < 60 then some (if c = '-' then -minutes else minutes, rest) else none
    else none

/-- Reads a time behind a date, if one follows. -/
def readTimeBehind? : Text → Option (Nat × Text)
  | [] => none
  | c :: text => if c = 'T' ∨ c = 't' ∨ c = ' ' then readTime? text else none

/-- The moment with a date, and with what follows the date. -/
def momentFrom (days : Nat) (text : Text) : Value × Text :=
  match readTimeBehind? text with
  | none => (.moment .date days, text)
  | some (micros, rest) =>
    let position : Int := days * 86400000000 + micros
    match readOffset? rest with
    | none => (.moment .localTime position, rest)
    | some (minutes, rest) => (.moment .exactTime (position - minutes * 60000000), rest)

/-- Reads a moment, if one starts here. -/
def readMoment? (text : Text) : Option (Except Flaw (Value × Text)) :=
  match dateParts? text with
  | some ((year, month, day), rest) =>
    if isDay year month day then some (.ok (momentFrom (dayNumber year month day) rest))
    else some (.error .malformed)
  | none => (readTime? text).map fun (micros, rest) => .ok (.moment .time micros, rest)

/-- Reads a yes, a no, a moment or a number. -/
def readPlain (text : Text) : Except Flaw (Value × Text) :=
  match text with
  | 't' :: 'r' :: 'u' :: 'e' :: rest => .ok (.flag true, rest)
  | 'f' :: 'a' :: 'l' :: 's' :: 'e' :: rest => .ok (.flag false, rest)
  | _ =>
    match readMoment? text with
    | some reading => reading
    | none =>
      match announced? text with
      | some (n, rest) => .ok (.number (.int n), rest)
      | none =>
        match readDecimal? text with
        | some reading => reading.map fun (n, rest) => (.number n, rest)
        | none =>
          match readWord? text with
          | some (n, rest) => .ok (.number n, rest)
          | none => .error .malformed

end Toml

end TemplateLint
