import ServiceBinding.Breaker.Window
import ServiceBinding.Clock

/-!
# Failures of commands

A call made through a command fails either by the command itself, which may then never have run the
operation, or by the error of the operation.
-/

namespace ServiceBinding

/-- Why a call through a command failed; `ε` are the errors of operations. -/
inductive CommandError (ε : Type)
  /-- Pool and queue were full; the operation did not run. -/
  | rejected (key : String)
  /-- The deadline passed; an operation that runs goes on. -/
  | timeout (key : String) (limit : Span)
  /-- The circuit was open; the operation did not run. -/
  | circuitOpen (key : String)
  /-- The operation broke off. -/
  | aborted (key : String) (reason : String)
  /-- The operation ran and failed. -/
  | execution (error : ε)
  deriving DecidableEq, Inhabited

namespace CommandError

variable {ε : Type}

/-- Whether the command itself failed the call. -/
def isBoundary : CommandError ε → Bool
  | .execution _ => false
  | _ => true

/-- A short name of a failure of the command itself. -/
def reason? : CommandError ε → Option String
  | .rejected _ => some "rejected"
  | .timeout _ _ => some "timeout"
  | .circuitOpen _ => some "circuit-open"
  | .aborted _ _ => some "aborted"
  | .execution _ => none

def message (text : ε → String) : CommandError ε → String
  | .rejected key => "Command " ++ key ++ " rejected: bulkhead full"
  | .timeout key limit => "Command " ++ key ++ " timed out after " ++ limit.text
  | .circuitOpen key => "Command " ++ key ++ " short-circuited: circuit open"
  | .aborted key reason => "Command " ++ key ++ " aborted: " ++ reason
  | .execution e => "Execution failed: " ++ text e

end CommandError

/-- Errors that tell whether the dependency could not serve the call. -/
class FailureKind (ε : Type) where
  isInfrastructure : ε → Bool

/-- How a finished operation counts. -/
def Outcome.ofResult [FailureKind ε] : Except ε α → Outcome
  | .ok _ => .success
  | .error e =>
    if FailureKind.isInfrastructure e then .infrastructureFailure else .serviceFailure

end ServiceBinding
