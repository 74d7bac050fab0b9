import Effects.Operation

/-!
# Processes

A process is something that can be advanced: it runs until it suspends with a command, completes
with a value, or fails. The first advance ignores its input; each later one receives the value that
answers the last command.

A process at rest is a `Process`, an advance under way is a `Run`, and the two are one well-founded
tree: behind every answer lies a strictly smaller run. Functions on processes are therefore
recursions on the tree, and laws about them are inductions. What remains after a run has completed
or failed is part of the tree as well, since a process can be advanced again.

That the tree is well-founded means that every process, on every sequence of answers, suspends only
finitely often: a process that may ask for ever is not a `Process`, and nothing below is said about
it. For each list of answers the processes that are covered include one that behaves alike as far as
the list goes.
-/

namespace Effects

mutual

/-- A process at rest. `held` lists the claims that are given up when the process is dropped. -/
inductive Process where
  /-- A process that can only fail with `alreadyCompleted`. -/
  | spent (held : List Claim)
  /-- A process that goes on with the value it is advanced with. -/
  | paused (held : List Claim) (resume : Value → Run)

/-- An advance under way. -/
inductive Run where
  /-- Performs an act and goes on with its answer. -/
  | act (a : Act) (next : a.Answer → Run)
  /-- Yields a command; `rest` receives the answer. -/
  | suspended (kind : Kind) (payload : Payload) (rest : Process)
  /-- Ends with a value. -/
  | completed (value : Value) (rest : Process)
  /-- Ends with a failure. -/
  | failed (failure : Failure) (rest : Process)

/-- The parameter of a command. -/
inductive Payload where
  | none
  | value (v : Value)
  /-- An operation to wait for. -/
  | future (pending : Pending)
  /-- The body of a capture scope: given the token of the scope, it runs. -/
  | body (held : List Claim) (enter : Token → Run)

end

/-- A requested effect: what to do, never how. -/
structure Command where
  /-- What is asked for. -/
  kind : Kind
  /-- With which parameter. -/
  payload : Payload

namespace Payload

/-- The claims that are given up when the payload is dropped. -/
def held : Payload → List Claim
  | none => []
  | value _ => []
  | future pending => pending.held
  | body held _ => held

/-- The value, if the payload is one. -/
def asValue? : Payload → Option Value
  | value v => some v
  | _ => Option.none

/-- The value; no payload reads as `null`. -/
def toValue (kind : Kind) : Payload → Except Failure Value
  | none => .ok .null
  | value v => .ok v
  | _ => .error (.payloadMismatch kind.shown "value")

/-- The operation to wait for. -/
def toFuture (kind : Kind) : Payload → Except Failure Pending
  | future pending => .ok pending
  | _ => .error (.payloadMismatch kind.shown "future")

/-- The body of a capture scope. -/
def toBody (kind : Kind) : Payload → Except Failure (List Claim × (Token → Run))
  | body held enter => .ok (held, enter)
  | _ => .error (.payloadMismatch kind.shown "capture body")

end Payload

namespace Process

/-- The claims that are given up when the process is dropped. -/
def held : Process → List Claim
  | spent held => held
  | paused held _ => held

/-- Advances a process. -/
def advance : Process → Value → Run
  | spent held, _ => .failed .alreadyCompleted (.spent held)
  | paused _ resume, input => resume input

/-- Advances a process for the first time. -/
def start (p : Process) : Run := p.advance .null

end Process

namespace Run

/-- A run that has completed and left nothing behind. -/
def ended (value : Value) : Run := .completed value (.spent [])

/-- A run that has failed and left nothing behind. -/
def aborted (failure : Failure) : Run := .failed failure (.spent [])

/-- Gives up claims, if there are any, and goes on. -/
def releasing (claims : List Claim) (next : Unit → Run) : Run :=
  match claims with
  | [] => next ()
  | claims => .act (.release claims) next

/-- Reports an event of the machinery and goes on. -/
def reporting (level : Level) (message : String) (fields : List (String × String))
    (next : Unit → Run) : Run :=
  .act (.report ⟨level, message, fields, false⟩) next

/-- Carries out a plan and goes on with its result. -/
def ofPlan {α : Type} (plan : Plan α) (next : α → Run) : Run :=
  match plan with
  | .done a => next a
  | .act a rest => .act a fun answer => ofPlan (rest answer) next

end Run

/-- Builds a process and advances it for the first time. -/
def Plan.start (plan : Plan Process) : Run := .ofPlan plan Process.start

namespace Process

/-! ## Leaves -/

/-- Completes with a value. -/
def pure (value : Value) : Process := .paused [] fun _ => .ended value

/-- Fails. -/
def fail (failure : Failure) : Process := .paused [] fun _ => .aborted failure

/-- Yields a command and completes with its answer. -/
def perform (kind : Kind) (payload : Payload) : Process :=
  .paused payload.held fun _ => .suspended kind payload (.paused [] .ended)

/-- Builds a process when it is first advanced. -/
def lazy (build : Unit → Run) : Process := .paused [] fun _ => build ()

end Process

/-! ## Sequencing -/

mutual

/-- A process that is dropped as soon as it ends. -/
def Process.dropAtEnd : Process → Process
  | .spent held => .paused held fun _ => .releasing held fun _ => .aborted .alreadyCompleted
  | .paused held resume => .paused held fun input => (resume input).dropAtEnd

/-- A run whose process is dropped as soon as it ends. -/
def Run.dropAtEnd : Run → Run
  | .act a rest => .act a fun answer => (rest answer).dropAtEnd
  | .suspended kind payload rest => .suspended kind payload rest.dropAtEnd
  | .completed value rest => .releasing rest.held fun _ => .ended value
  | .failed failure rest => .releasing rest.held fun _ => .aborted failure

end

mutual

/-- Goes on, with the value of a process, to the process that `next` builds; until then `owned` is
held for it. -/
def Process.andThenHolding (owned : List Claim) (next : Value → Plan Process) : Process → Process
  | .spent held =>
    .paused (held ++ owned) fun _ => .releasing (held ++ owned) fun _ => .aborted .alreadyCompleted
  | .paused held resume =>
    .paused (held ++ owned) fun input => (resume input).andThenHolding owned next

/-- Goes on, with the value of a run, to the process that `next` builds. The first part is still
there while the second is built, and is dropped before the second is advanced; the second is dropped
when it ends. A failure of the first part drops what was held for the second. -/
def Run.andThenHolding (owned : List Claim) (next : Value → Plan Process) : Run → Run
  | .act a rest => .act a fun answer => (rest answer).andThenHolding owned next
  | .suspended kind payload rest => .suspended kind payload (rest.andThenHolding owned next)
  | .completed value rest =>
    .ofPlan (next value) fun second => .releasing rest.held fun _ => second.start.dropAtEnd
  | .failed failure rest => .releasing (rest.held ++ owned) fun _ => .aborted failure

end

namespace Process

/-- Goes on, with the value of a process, to the process that `next` builds. -/
def andThen (first : Process) (next : Value → Plan Process) : Process :=
  first.andThenHolding [] next

/-- Runs a second process after the first, whose value is discarded. -/
def andAlso (first second : Process) : Process :=
  first.andThenHolding second.held fun _ => .done second

end Process

mutual

/-- Transforms the value of a process. A transformation is carried out once; without it, completing
is a failure. The process itself stays after a failure and can be advanced again. -/
def Process.mapOnce (f : Option (Value → Plan Value)) : Process → Process
  | .spent held => .spent held
  | .paused held resume => .paused held fun input => (resume input).mapOnce f

/-- Transforms the value of a run. -/
def Run.mapOnce (f : Option (Value → Plan Value)) : Run → Run
  | .act a rest => .act a fun answer => (rest answer).mapOnce f
  | .suspended kind payload rest => .suspended kind payload (rest.mapOnce f)
  | .completed value rest =>
    match f with
    | some g => .ofPlan (g value) fun value => .completed value (rest.mapOnce none)
    | none => .failed .alreadyCompleted (rest.mapOnce none)
  | .failed failure rest => .failed failure (rest.mapOnce f)

end

/-- Transforms the value of a process. -/
def Process.map (f : Value → Plan Value) (p : Process) : Process := p.mapOnce (some f)

/-! ## Folds -/

mutual

/-- One step of a longer loop: the loop goes on with the value of the process, and holds `owned`
throughout. After a failure the step stays in place, to be advanced again. -/
def Process.step (owned : List Claim) (next : Value → Run) : Process → Process
  | .spent held => .spent (held ++ owned)
  | .paused held resume => .paused (held ++ owned) fun input => (resume input).step owned next

/-- One step of a longer loop: the loop goes on with the value of the run. -/
def Run.step (owned : List Claim) (next : Value → Run) : Run → Run
  | .act a rest => .act a fun answer => (rest answer).step owned next
  | .suspended kind payload rest => .suspended kind payload (rest.step owned next)
  | .completed value rest => .releasing rest.held fun _ => next value
  | .failed failure rest => .failed failure (rest.step owned next)

end

/-- The loop of a fold from a given accumulator on. Its step function, which stays when the loop has
ended, owns `owned`. -/
def Run.foldFrom (owned : List Claim) (f : Value → Value → Run) : List Value → Value → Run
  | [], acc => .completed acc (.spent owned)
  | item :: rest, acc => (f acc item).step owned (foldFrom owned f rest)

/-- Reduces a list with an effectful step function that owns `owned`. -/
def Process.foldHolding (owned : List Claim) (items : List Value) (init : Value)
    (f : Value → Value → Run) : Process :=
  .paused owned fun _ => .foldFrom owned f items init

/-- Reduces a list with an effectful step function. -/
def Process.fold (items : List Value) (init : Value) (f : Value → Value → Run) : Process :=
  .foldHolding [] items init f

end Effects
