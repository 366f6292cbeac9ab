import TemplateLint.Text.Basic

/-!
# Logging

How much the program tells about its work, and the names of the sources that tell it.
-/
namespace TemplateLint

/-- The least level of what is told. -/
inductive LogLevel where
  | debug
  | warning
  | error
deriving DecidableEq

namespace LogLevel

/-- The number of a level. -/
def number : LogLevel → Nat
  | debug => 10
  | warning => 30
  | error => 40

/-- The level that two switches ask for; being quiet wins. -/
def ofSwitches (verbose quiet : Bool) : LogLevel :=
  if quiet then error else if verbose then debug else warning

end LogLevel

/-- The program's log, after it was set up. -/
structure Log where
  name : Text
  level : LogLevel
  /-- What is told is passed on to the log of the host. -/
  passesOn : Bool
  handlers : Nat

namespace Log

/-- The name of the program's own log. -/
def rootName : Text := "viewlint"

/-- The program's log for two switches.  It has one handler and keeps to itself, however often it is
set up. -/
def setUp (verbose quiet : Bool) : Log := ⟨rootName, .ofSwitches verbose quiet, false, 1⟩

/-- The full name of a log; without a name it is the program's own. -/
def nameOf : Option Text → Text
  | none => rootName
  | some name => if rootName.isPrefixOf name then name else rootName ++ "." ++ name

end Log

end TemplateLint
