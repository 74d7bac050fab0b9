import Effects.Log
import Effects.Store

/-!
# Instrumented handlers

A handler can be wrapped so that each command it answers is followed by a log command that describes
input and output. The wrapped handler is used as it is.
-/

namespace Effects

/-- Logs, after each answered command, what `describe` says of its input and output. -/
def Handler.instrument (h : Handler) (describe : Value → Value → List Value) : Handler where
  kind := h.kind
  handle payload :=
    let input := payload.asValue?.getD .null
    (h.handle payload).andThenHolding [] fun output =>
      .done ((log (describe input output)).map fun _ => .done output)

/-- Describes a call of the store: `DB#method(first argument) -> result`. -/
def describeCall (input output : Value) : List Value :=
  match StoreRequest.ofValue input with
  | .ok request =>
    [.str ("DB#" ++ request.method ++ "(" ++ (request.args.head?.getD .null).render ++ ") -> "
      ++ output.render)]
  | .error _ => [.str ("DB#? -> " ++ output.render)]

/-- Answers `db` commands and logs each call with its result. -/
def instrumentedDbHandler (service : Service) : Handler :=
  (dbHandler service).instrument describeCall

end Effects
