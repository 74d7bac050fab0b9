import Effects.Layer

/-!
# Drivers

A driver advances a process until it ends and handles no effects of its own. `Process.drive` expects
that no command is left, `Process.driveWith` answers every command from outside, and
`Process.bridge` turns a process whose remaining commands are waits into a pending operation: the
process is resumed when the operation that it waits for has settled.
-/

namespace Effects

/-- Whether a scope is still running, in words. -/
def scopeState (isOpen : Bool) : String := if isOpen then "scope open" else "scope closed"

/-- Classifies a command that no layer claimed. -/
def Kind.unhandled (kind : Kind) : Plan Failure :=
  match kind with
  | .escape token =>
    .act (.isOpen token) fun isOpen =>
      (Plan.report .warn "escape reached the driver"
        [("token", token.shown), ("state", scopeState isOpen)]).bind fun _ =>
          .done (.escapeLeak token.shown (scopeState isOpen))
  | .tag name =>
    (Plan.report .warn "unhandled command reached the driver" [("kind", name)]).bind fun _ =>
      .done (.unhandledCommand name)

/-- Drives a run to its end. The process is dropped however the run ends. -/
def Run.drive : Run → Plan Outcome
  | .act a rest => .act a fun answer => (rest answer).drive
  | .completed value rest => (Plan.release rest.held).bind fun _ => .done (.ok value)
  | .failed failure rest => (Plan.release rest.held).bind fun _ => .done (.error failure)
  | .suspended kind payload rest =>
    kind.unhandled.bind fun failure =>
      (Plan.release (payload.held ++ rest.held)).bind fun _ => .done (.error failure)

/-- Drives a process in which every command is handled to its end. -/
def Process.drive (p : Process) : Plan Outcome := p.start.drive

/-- Answers commands, one after the other, from a state. -/
abbrev Responder (σ : Type) := σ → Command → Plan (Outcome × σ)

mutual

/-- Drives a process, advanced with an input, by answering its commands. -/
def Process.answeredBy {σ : Type} (respond : Responder σ) :
    Process → σ → Value → Plan (Outcome × σ)
  | .spent held, state, _ =>
    (Plan.release held).bind fun _ => .done (.error .alreadyCompleted, state)
  | .paused _ resume, state, input => (resume input).answeredBy respond state

/-- Drives a run by answering its commands, in the order in which they are yielded. A command that
cannot be answered ends the run. -/
def Run.answeredBy {σ : Type} (respond : Responder σ) : Run → σ → Plan (Outcome × σ)
  | .act a rest, state => .act a fun answer => (rest answer).answeredBy respond state
  | .completed value rest, state =>
    (Plan.release rest.held).bind fun _ => .done (.ok value, state)
  | .failed failure rest, state =>
    (Plan.release rest.held).bind fun _ => .done (.error failure, state)
  | .suspended kind payload rest, state =>
    (respond state ⟨kind, payload⟩).bind fun
      | (.ok value, state) => rest.answeredBy respond state value
      | (.error failure, state) =>
        (Plan.release rest.held).bind fun _ => .done (.error failure, state)

end

/-- Drives a process by answering its commands from a state. -/
def Process.driveWith {σ : Type} (respond : Responder σ) (state : σ) (p : Process) :
    Plan (Outcome × σ) :=
  p.answeredBy respond state .null

mutual

/-- The operation that drives a process, advanced with an input, through its waits. -/
def Process.awaited : Process → Value → Operation
  | .spent held, _ => .releasing held fun _ => .settled (.error .alreadyCompleted)
  | .paused _ resume, input => (resume input).awaited

/-- The operation that drives a run through its waits. The process advances only after the operation
that it waits for has settled; a failure of that operation is wrapped, and ends the run. -/
def Run.awaited : Run → Operation
  | .act a rest => .act a fun answer => (rest answer).awaited
  | .completed value rest => .releasing rest.held fun _ => .settled (.ok value)
  | .failed failure rest => .releasing rest.held fun _ => .settled (.error failure)
  | .suspended kind payload rest =>
    if kind = .wait then
      match payload.toFuture kind with
      | .ok pending =>
        .reporting .debug "awaiting pending operation" [] fun _ =>
          pending.start.andThen rest.held fun
            | .ok value => rest.awaited value
            | .error failure =>
              .reporting .debug "pending operation failed" [("error", failure.message)] fun _ =>
                .releasing rest.held fun _ => .settled (.error (.asyncFailure failure))
      | .error failure =>
        .releasing (payload.held ++ rest.held) fun _ => .settled (.error failure)
    else
      .ofPlan kind.unhandled fun failure =>
        .releasing (payload.held ++ rest.held) fun _ => .settled (.error failure)

end

/-- The operation that drives a process whose remaining commands are waits. -/
def Process.bridge (p : Process) : Pending := ⟨p.held, p.awaited .null⟩

/-- Waits for an operation and completes with its value. -/
def awaiting (pending : Pending) : Process := .perform .wait (.future pending)

end Effects
