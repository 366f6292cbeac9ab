import TemplateLint.Number.Reading
import TemplateLint.Settings.Field

/-!
# Settings in the environment

Every field of the three records can be set by a variable of the environment.  Its text is read by the
kind of the field, not by how it looks; a variable that no field has is passed over.
-/
namespace TemplateLint

/-- Why the text of a variable is not a value for its field. -/
inductive VariableError where
  | notAFlag (text : Text)
  | notANumber (reason : ReadError)
deriving DecidableEq

namespace VariableError

/-- The wording of the reason. -/
def message : VariableError → Text
  | notAFlag text => "expected true/false, got '" ++ text ++ "'"
  | notANumber reason => reason.message

end VariableError

namespace Field

/-- The words for a yes. -/
def yesWords : List Text := ["true", "1", "yes", "on"]

/-- The words for a no. -/
def noWords : List Text := ["false", "0", "no", "off"]

/-- The yes or no that a text stands for. -/
def readFlag (text : Text) : Except VariableError Bool :=
  let word := lowercase text
  if word ∈ yesWords then .ok true
  else if word ∈ noWords then .ok false
  else .error (.notAFlag text)

/-- The names between the commas of a text, without the blanks around them. -/
def readNames (text : Text) : List Text :=
  ((List.splitOn ',' text).map Text.strip).filter fun name => name ≠ []

/-- The value that a text stands for. -/
def read (kind : FieldKind) (text : Text) : Except VariableError Value :=
  match kind with
  | .flag => (readFlag text).map .flag
  | .whole => ((readInt text).map (.number ∘ .int)).mapError .notANumber
  | .real => ((readReal text).map (.number ∘ .real)).mapError .notANumber
  | .names => .ok (.names (readNames text))
  | .word => .ok (.text text)

/-- The name of the variable for a field. -/
def variableName (start : Text) (f : Field) : Text := start ++ f.name.map Char.toUpper

end Field

namespace Schema

/-- The fields that the environment sets, with their values; the name of a variable that has no value
comes with the reason. -/
def readVariables (environment : Entries Text) (start : Text) :
    List Field → Except (Text × VariableError) Record
  | [] => .ok []
  | f :: rest =>
    match environment.get? (f.variableName start) with
    | none => readVariables environment start rest
    | some text =>
      match Field.read f.kind text with
      | .error reason => .error (f.variableName start, reason)
      | .ok value => (readVariables environment start rest).map ((f.name, value) :: ·)

end Schema

end TemplateLint
