import TemplateLint.Format.Notice
import TemplateLint.Format.Encoding
import TemplateLint.Format.Terminal

/-!
# Output formats

The formats in which a result can be shown, by their names.
-/
namespace TemplateLint

/-- A format in which a result can be shown. -/
inductive OutputFormat where
  | notices
  | json
  | locations
  | terminal
deriving DecidableEq

/-- What a format shows: a text for further programs, and displays for a terminal. -/
structure Output where
  text : Text
  displays : List Display

namespace OutputFormat

/-- The name of a format. -/
def name : OutputFormat → Text
  | notices => "github"
  | json => "json"
  | locations => "quiet"
  | terminal => "rich"

/-- Every format, in the order of the names. -/
def all : List OutputFormat := [notices, json, locations, terminal]

/-- The names of the formats. -/
def choices : Text := (", " : Text).intercalate (all.map name)

/-- The format of a name. -/
def ofName? (given : Text) : Option OutputFormat := all.find? fun f => f.name = given

/-- A result in a format. -/
def present (format : OutputFormat) (source : Option Text) (r : AnyResult) : Output :=
  match format with
  | notices => ⟨("\n" : Text).intercalate (Notice.ofResult source r), []⟩
  | json => ⟨(r.toJsonFrom source).print, []⟩
  | locations => ⟨("\n" : Text).intercalate (Location.ofResult source r), []⟩
  | terminal => ⟨[], Terminal.ofResult source r⟩

end OutputFormat

/-- Nothing but the name of a format is one. -/
structure UnknownFormat where
  given : Value
deriving DecidableEq

namespace UnknownFormat

/-- The wording of the error. -/
def message (e : UnknownFormat) : Text :=
  "Unknown formatter: " ++ e.given.shown ++ ". Choose from: " ++ OutputFormat.choices

end UnknownFormat

namespace OutputFormat

/-- The format that a value names, or the error that there is none. -/
def ofValue (given : Value) : Except UnknownFormat OutputFormat :=
  match given.toText?.bind ofName? with
  | some format => .ok format
  | none => .error ⟨given⟩

end OutputFormat

end TemplateLint
