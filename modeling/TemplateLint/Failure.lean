import TemplateLint.Value

/-!
# Failures

Why an operation refuses its input.  A failure has a message and named details; both are made here
and nowhere else.
-/
namespace TemplateLint

/-- Why an operation refuses its input. -/
inductive Failure where
  /-- No template type has this name. -/
  | unknownTemplateType (given : Text)
  /-- Nothing but the names of the focuses is one. -/
  | unknownFocus (given : Value)
  /-- The path leads nowhere. -/
  | templateNotFound (path : Text)
  /-- The file cannot be read. -/
  | unreadable (path reason : Text)
  /-- A setting has a value that is not allowed; the value is given as it is shown. -/
  | refusedSetting (key value reason : Text)
deriving DecidableEq

namespace Failure

/-- The names of the template types in the order of words. -/
def templateTypes : List Text := ["antlers", "auto", "auto-detect", "blade"]

/-- The names of the focuses in the order of words. -/
def focuses : List Text := ["all", "maintainability", "performance", "security"]

/-- The message of a failure. -/
def message : Failure → Text
  | unknownTemplateType given => "Invalid template_type: " ++ given.quoted
  | unknownFocus given => "Invalid optimization_focus: " ++ given.shown
  | templateNotFound path => "Template not found: " ++ path
  | unreadable path _ => "Cannot read template: " ++ path
  | refusedSetting key value _ => "Invalid configuration for " ++ key ++ ": " ++ value

/-- The details of a failure in their order. -/
def details : Failure → List (Text × Text)
  | unknownTemplateType given =>
    [("option", "template_type"), ("value", given),
      ("allowed", (", " : Text).intercalate templateTypes)]
  | unknownFocus given =>
    [("option", "optimization_focus"), ("value", given.told),
      ("allowed", (", " : Text).intercalate focuses)]
  | templateNotFound path => [("path", path), ("reason", "path does not exist")]
  | unreadable path reason => [("filepath", path), ("reason", reason)]
  | refusedSetting key value reason => [("key", key), ("value", value), ("reason", reason)]

/-- The message with the details behind it. -/
def describe (f : Failure) : Text :=
  f.message ++ " (" ++ (", " : Text).intercalate (f.details.map fun d => d.1 ++ "=" ++ d.2) ++ ")"

end Failure

end TemplateLint
