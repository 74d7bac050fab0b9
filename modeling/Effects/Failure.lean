/-!
# Failures

Why a run ends without a value. Layers never swallow a failure and never change it; a handler that
models failure as a value completes with an ordinary value instead.
-/

namespace Effects

/-- The cause of a failed run. -/
inductive Failure where
  /-- A command reached a driver with no layer for its kind. -/
  | unhandledCommand (kind : String)
  /-- An awaited operation settled with a failure. -/
  | asyncFailure (source : Failure)
  /-- An escape was observed outside the capture scope that minted its token. -/
  | escapeLeak (token state : String)
  /-- A process was advanced after it had completed. -/
  | alreadyCompleted
  /-- A command carried a payload of the wrong shape for its kind. -/
  | payloadMismatch (kind expected : String)
  /-- A failure in the domain of a handler. -/
  | handler (kind message : String)
  /-- A deferred operation whose resolver was dropped before it settled. -/
  | abandoned
deriving DecidableEq, Repr, Inhabited

namespace Failure

/-- The wording of a failure. -/
def message : Failure → String
  | unhandledCommand kind => "Unhandled command: " ++ kind
  | asyncFailure source => "Async operation failed: " ++ message source
  | escapeLeak token state =>
    "Escape " ++ token ++ " leaked outside its capture scope (" ++ state ++ ")"
  | alreadyCompleted => "Computation advanced after completion"
  | payloadMismatch kind expected =>
    "Command '" ++ kind ++ "' expected a " ++ expected ++ " payload"
  | handler kind text => "Handler for '" ++ kind ++ "' failed: " ++ text
  | abandoned => "Pending operation was abandoned before it settled"

/-- The failure that directly caused this one. -/
def source? : Failure → Option Failure
  | asyncFailure source => some source
  | _ => none

/-- The chain of causes below a failure, nearest first. -/
def sources : Failure → List Failure
  | asyncFailure source => source :: sources source
  | _ => []

end Failure

end Effects
