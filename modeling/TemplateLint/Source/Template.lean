import TemplateLint.Dialect
import TemplateLint.Text.Utf8

/-!
# Template sources

A template with the dialect it is written in.  It comes from a file or is given as text; files that
are left out are noted with the reason.
-/
namespace TemplateLint

/-- A template with the dialect it is written in. -/
structure TemplateSource where
  path : Text
  dialect : Dialect
  text : Text
  size : Nat
deriving DecidableEq

/-- The path of a template that was given as text. -/
def inlinePath : Text := "<inline>"

namespace TemplateSource

/-- The template that is given as text. -/
def inline (text : Text) (type : Option Text) : Except Failure TemplateSource := do
  let dialect ← Dialect.classify none text type
  pure ⟨inlinePath, dialect, text, Utf8.size text⟩

end TemplateSource

/-- A file that was left out, with the reason. -/
structure SkippedFile where
  path : Text
  reason : Text
deriving DecidableEq

end TemplateLint
