import TemplateLint.Entries
import TemplateLint.Value

/-!
# Findings

What a rule or a detector reports about a template, and the risks that are told beside it without
counting as findings.
-/
namespace TemplateLint

/-- How serious a finding is. -/
inductive Severity where
  | critical
  | error
  | warning
  | info
deriving DecidableEq

/-- The name of a severity. -/
def Severity.name : Severity → Text
  | critical => "critical"
  | error => "error"
  | warning => "warning"
  | info => "info"

/-- Every severity. -/
def Severity.all : List Severity := [.critical, .error, .warning, .info]

/-- What a finding is about. -/
inductive Category where
  | policy
  | performance
  | security
  | accessibility
  | maintainability
deriving DecidableEq

/-- The name of a category. -/
def Category.name : Category → Text
  | policy => "policy"
  | performance => "performance"
  | security => "security"
  | accessibility => "accessibility"
  | maintainability => "maintainability"

/-- Every category. -/
def Category.all : List Category :=
  [.policy, .performance, .security, .accessibility, .maintainability]

/-- A report of one rule about one place. -/
structure Finding where
  rule : Text
  category : Category
  severity : Severity
  line : Int
  message : Text
  column : Option Int := none
  evidence : Option Text := none
  suggestion : Option Text := none
  template : Option Text := none
  /-- The facts that it carries beside its message. -/
  details : Entries Value := []
deriving DecidableEq

namespace Finding

/-- Only errors are violations. -/
def isError (f : Finding) : Bool := f.severity == .error

/-- A finding of the highest severity. -/
def isCritical (f : Finding) : Bool := f.severity == .critical

end Finding

/-- A risk that is told beside the findings. -/
structure EdgeCase where
  kind : Text
  message : Text
  risk : Text
  line : Option Int := none
deriving DecidableEq

end TemplateLint
