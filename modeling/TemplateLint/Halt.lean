import TemplateLint.Failure

/-!
# Halts

A computation that reads templates can stop for two kinds of reasons: a failure, which tells the user
what to change, or a fault of the computation itself.
-/
namespace TemplateLint

/-- Why a computation stops without an answer. -/
inductive Halt where
  | failure (reason : Failure)
  | fault (reason : Fault)
deriving DecidableEq

instance : MonadLift (Except Failure) (Except Halt) := ⟨Except.mapError Halt.failure⟩

instance : MonadLift (Except Fault) (Except Halt) := ⟨Except.mapError Halt.fault⟩

end TemplateLint
