import Effects.Layer

/-!
# Capture scopes

A capture scope runs a body that knows the scope's token. If the body completes, that is the
outcome. If it yields the escape with this very token, the value of the escape is the outcome and
the rest of the body is dropped. Every other command passes through, the escapes of enclosing scopes
among them. However a scope ends, its token is closed, and so is every scope that the body still
owned.
-/

namespace Effects

mutual

/-- The running scope of a token around its body. -/
def Process.within (token : Token) : Process → Process
  | .spent held =>
    .paused (.scope token :: held) fun _ =>
      .releasing (.scope token :: held) fun _ => .aborted .alreadyCompleted
  | .paused held resume =>
    .paused (.scope token :: held) fun input => (resume input).within token

/-- The run of a scope's body. -/
def Run.within (token : Token) : Run → Run
  | .act a rest => .act a fun answer => (rest answer).within token
  | .suspended kind payload rest =>
    if kind = .escape token then
      .reporting .debug "escaping capture scope" [("token", token.shown)]
        fun _ => .releasing (.scope token :: (payload.held ++ rest.held)) fun _ =>
          match payload.toValue kind with
          | .ok value => .ended value
          | .error failure => .aborted failure
    else if kind.isEscape then
      .reporting .debug "escape passing through scope"
        [("kind", kind.shown), ("scope", token.shown)]
        fun _ => .suspended kind payload (rest.within token)
    else .suspended kind payload (rest.within token)
  | .completed value rest => .releasing (.scope token :: rest.held) fun _ => .ended value
  | .failed failure rest => .releasing (.scope token :: rest.held) fun _ => .aborted failure

end

/-- The scope of a minted token whose body has not started; `held` belongs to the body. -/
def Process.scope (token : Token) (held : List Claim) (enter : Token → Run) : Process :=
  .paused (.scope token :: held) fun _ => (enter token).within token

/-- Leaves the scope of a token with a value. What is sequenced after it never runs. -/
def Token.exit (token : Token) (value : Value) : Process :=
  .perform (.escape token) (.value value)

/-- A new capture scope around a body. Its token is minted when the scope is made, not when it is
first advanced. -/
def callCC (body : Token → Run) : Plan Process :=
  .act .mint fun token => .done (.scope token [] body)

/-- Asks an enclosing layer for a capture scope around a body. -/
def callCCCommand (body : Token → Run) : Process := .perform .callCC (.body [] body)

/-! ## The layer for `call-cc` -/

mutual

/-- Serves the `call-cc` commands of a process. -/
def Process.capturing : Process → Process
  | .spent held => .spent held
  | .paused held resume => .paused held fun input => (resume input).capturing

/-- Serves the `call-cc` commands of a run: each body runs in a scope of its own, and within that
scope its own `call-cc` commands are served in the same way. -/
def Run.capturing : Run → Run
  | .act a rest => .act a fun answer => (rest answer).capturing
  | .suspended kind payload rest =>
    if kind = .callCC then
      .reporting .trace "dispatching command to handler" [("kind", Kind.callCC.shown)]
        fun _ => .serving .callCC rest.capturing
          (match payload with
            | .body _ enter => .act .mint fun token => (enter token).capturing.within token
            | .none => .aborted (.payloadMismatch Kind.callCC.shown "capture body")
            | .value _ => .aborted (.payloadMismatch Kind.callCC.shown "capture body")
            | .future pending =>
              .releasing pending.held fun _ =>
                .aborted (.payloadMismatch Kind.callCC.shown "capture body"))
    else
      .reporting .trace "passing command through"
        [("kind", kind.shown), ("handling", Kind.callCC.shown)]
        fun _ => .suspended kind payload rest.capturing
  | .completed value rest => .completed value (.spent rest.held)
  | .failed failure rest => .failed failure rest.capturing

end

/-- Answers `call-cc` commands by running each body in a scope of its own. -/
def captureHandler : Handler where
  kind := .callCC
  handle payload :=
    match payload.toBody .callCC with
    | .ok (held, enter) =>
      .act .mint fun token =>
        (Process.scope token held fun token => (enter token).capturing).start
    | .error failure => .releasing payload.held fun _ => .aborted failure

end Effects
