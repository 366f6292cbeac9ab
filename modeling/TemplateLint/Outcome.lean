import TemplateLint.Halt

/-!
# Outcomes

Every operation has an outcome: its result with a note, or the reason why it was refused.  A fault of
the computation is no outcome.
-/
namespace TemplateLint

/-- The result of an operation, or the reason why there is none. -/
inductive Outcome (α : Type) where
  | success (data : α) (note : Text)
  | refusal (reason : Failure)

namespace Outcome

/-- The outcome of a computation that gives a result with a note. -/
def ofRun {α : Type} : Except Halt (α × Text) → Except Fault (Outcome α)
  | .ok (data, note) => .ok (success data note)
  | .error (.failure reason) => .ok (refusal reason)
  | .error (.fault reason) => .error reason

end Outcome

end TemplateLint
