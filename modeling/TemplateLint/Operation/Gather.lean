import TemplateLint.Outcome
import TemplateLint.Settings.Basic

/-!
# Gathering templates

An operation on templates is given a path or the text of a template.  A text of one line is taken as a
path if it leads somewhere; otherwise it must look like a template.
-/
namespace TemplateLint

/-- A text that contains one of these looks like a template. -/
def templateMarkers : List Text := ["\n", "\x7b\x7b", "@", "<"]

/-- The text looks like a template. -/
def looksLikeTemplate (text : Text) : Bool := templateMarkers.any (Text.contains text)

/-- The collection of the one template that is given as text. -/
def Collection.inline (text : Text) (type : Option Text) : Except Halt Collection := do
  let source ← TemplateSource.inline text type
  pure ⟨[source], []⟩

/-- The templates at a path or in a text. -/
def Collection.gather (w : World) (o : CollectOptions) (type : Option Text) (given : Text) :
    Except Halt Collection :=
  if '\n' ∈ given then inline given type
  else
    match ofPath w o type .null given with
    | .error (.failure (.templateNotFound path)) =>
      if looksLikeTemplate given then inline given type
      else .error (.failure (.templateNotFound path))
    | answer => answer

/-- The note of an operation that has looked at no template. -/
def noteFor (c : Collection) : Text :=
  if c.sources.isEmpty then "No templates found at the specified path" else []

end TemplateLint
