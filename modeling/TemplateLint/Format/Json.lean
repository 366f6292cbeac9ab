import TemplateLint.Entries
import TemplateLint.Number.Basic
import TemplateLint.Text.Quoted

/-!
# JSON documents

A document is printed with one entry on a line, indented by two spaces for every level.  Characters
outside of the printable ASCII range are written as escapes, those beyond U+FFFF as a pair of
surrogates.
-/
namespace TemplateLint

/-- A JSON document; its objects keep the order of their keys. -/
inductive Json where
  | null
  | bool (value : Bool)
  | number (value : Number)
  | text (value : Text)
  | list (values : List Json)
  | object (entries : List (Text × Json))

namespace Json

instance : Coe Text Json := ⟨text⟩

/-- An integer. -/
def int (n : Int) : Json := number (.int n)

/-- A list of texts. -/
def texts (values : List Text) : Json := list (values.map text)

/-- A value that may be missing. -/
def orNull {α : Type} (encode : α → Json) : Option α → Json
  | some value => encode value
  | none => null

/-- A list of encoded values. -/
def listOf {α : Type} (encode : α → Json) (values : List α) : Json := list (values.map encode)

/-- An object of encoded values. -/
def objectOf {α : Type} (encode : α → Json) (entries : Entries α) : Json :=
  object (entries.map fun e => (e.1, encode e.2))

/-- The escape of a unit of sixteen bits. -/
def escapeUnit (n : Nat) : Text := '\\' :: 'u' :: Quoted.hex 4 n

/-- The written form of one character of a text. -/
def escape (c : Char) : Text :=
  if c = '"' then ['\\', '"']
  else if c = '\\' then ['\\', '\\']
  else if c = '\n' then ['\\', 'n']
  else if c = '\r' then ['\\', 'r']
  else if c = '\t' then ['\\', 't']
  else if c.toNat = 8 then ['\\', 'b']
  else if c.toNat = 12 then ['\\', 'f']
  else if ' ' ≤ c ∧ c ≤ '~' then [c]
  else if c.toNat < 0x10000 then escapeUnit c.toNat
  else
    let offset := c.toNat - 0x10000
    escapeUnit (0xD800 + offset / 0x400) ++ escapeUnit (0xDC00 + offset % 0x400)

/-- A text between double quotes. -/
def quote (t : Text) : Text := '"' :: t.flatMap escape ++ ['"']

/-- The written form of a number. -/
def ofNumber : Number → Text
  | .real .nan => "NaN"
  | .real (.infinite false) => "Infinity"
  | .real (.infinite true) => "-Infinity"
  | n => n.toText

/-- A new line with the indentation of a level. -/
def newLine (level : Nat) : Text := '\n' :: List.replicate (2 * level) ' '

mutual

/-- The printed form of a document at a level. -/
def printAt (level : Nat) : Json → Text
  | null => "null"
  | bool true => "true"
  | bool false => "false"
  | number n => ofNumber n
  | text t => quote t
  | list [] => "[]"
  | list (first :: rest) =>
    '[' :: newLine (level + 1) ++ printAt (level + 1) first ++ printItems (level + 1) rest ++
      newLine level ++ [']']
  | object [] => "\x7b\x7d"
  | object ((key, value) :: rest) =>
    '\x7b' :: newLine (level + 1) ++ quote key ++ ": " ++ printAt (level + 1) value ++
      printEntries (level + 1) rest ++ newLine level ++ ['\x7d']

/-- The printed form of the later items of a list. -/
def printItems (level : Nat) : List Json → Text
  | [] => []
  | value :: rest => ',' :: newLine level ++ printAt level value ++ printItems level rest

/-- The printed form of the later entries of an object. -/
def printEntries (level : Nat) : List (Text × Json) → Text
  | [] => []
  | (key, value) :: rest =>
    ',' :: newLine level ++ quote key ++ ": " ++ printAt level value ++ printEntries level rest

end

/-- The printed form of a document. -/
def print (j : Json) : Text := printAt 0 j

end Json

end TemplateLint
