import Effects.Process

/-!
# Layers

A layer turns a process into one that no longer yields the commands it recognises. A command it does
not recognise is yielded again unchanged, and its answer goes straight back inside. There are two
kinds of layers: a `Handler` answers a command by a run of its own, whose commands go outward, and a
`Threaded` layer answers from a state that is private to each run. A `Stack` applies its layers from
the innermost to the outermost.
-/

namespace Effects

/-- Answers the commands of one kind: a run for each payload. -/
structure Handler where
  /-- The kind that is answered. -/
  kind : Kind
  /-- The run whose value answers a command with the given payload. -/
  handle : Payload → Run

mutual

/-- A process that stands in for `inner` while a command of `inner` is being answered. -/
def Process.serving (kind : Kind) (inner : Process) : Process → Process
  | .spent held => .spent (held ++ inner.held)
  | .paused held resume =>
    .paused (held ++ inner.held) fun input => .serving kind inner (resume input)

/-- The run of a handler; its value resumes `inner`. Its commands go outward, and after a failure
both it and `inner` stay in place. -/
def Run.serving (kind : Kind) (inner : Process) : Run → Run
  | .act a rest => .act a fun answer => .serving kind inner (rest answer)
  | .suspended asked payload rest =>
    .reporting .trace "handler suspended" [("kind", asked.shown), ("handling", kind.shown)]
      fun _ => .suspended asked payload (.serving kind inner rest)
  | .completed value rest => .releasing rest.held fun _ => inner.advance value
  | .failed failure rest => .failed failure (.serving kind inner rest)

end

mutual

/-- Applies a handler to a process. -/
def Process.handledBy (h : Handler) : Process → Process
  | .spent held => .spent held
  | .paused held resume => .paused held fun input => (resume input).handledBy h

/-- Applies a handler to a run. A finished process is not advanced again. -/
def Run.handledBy (h : Handler) : Run → Run
  | .act a rest => .act a fun answer => (rest answer).handledBy h
  | .suspended kind payload rest =>
    if kind = h.kind then
      .reporting .trace "dispatching command to handler" [("kind", h.kind.shown)]
        fun _ => .serving h.kind (rest.handledBy h) (h.handle payload)
    else
      .reporting .trace "passing command through"
        [("kind", kind.shown), ("handling", h.kind.shown)]
        fun _ => .suspended kind payload (rest.handledBy h)
  | .completed value rest => .completed value (.spent rest.held)
  | .failed failure rest => .failed failure (rest.handledBy h)

end

/-- Answers the commands of one kind from a state. -/
structure Threaded (σ : Type) where
  /-- The kind that is answered. -/
  kind : Kind
  /-- The state in which every run starts. -/
  initial : σ
  /-- Answers a command, and gives up its payload: the answer and the state after it. -/
  answer : σ → Payload → Plan (Except Failure Value × σ)
  /-- The value of a run, from its last state and the value of the process. -/
  finish : σ → Value → Plan Value

/-- Answers the commands of one kind from a state, by computing only: payloads are given up, and
nothing else is done to the surroundings. -/
def Threaded.computing {σ : Type} (kind : Kind) (initial : σ)
    (answer : σ → Payload → Except Failure Value × σ) (finish : σ → Value → Value) :
    Threaded σ where
  kind := kind
  initial := initial
  answer state payload := (Plan.release payload.held).bind fun _ => .done (answer state payload)
  finish state value := .done (finish state value)

mutual

/-- Threads a state through a process. -/
def Process.threadedBy {σ : Type} (l : Threaded σ) : Process → σ → Process
  | .spent held, _ => .spent held
  | .paused held resume, state => .paused held fun input => (resume input).threadedBy l state

/-- Threads a state through a run. When a command cannot be answered, the process stays suspended at
it, in the state that the attempt has left. -/
def Run.threadedBy {σ : Type} (l : Threaded σ) : Run → σ → Run
  | .act a rest, state => .act a fun answer => (rest answer).threadedBy l state
  | .suspended kind payload rest, state =>
    if kind = l.kind then
      .reporting .trace "updating interpreter state" [("kind", l.kind.shown)]
        fun _ => .ofPlan (l.answer state payload) fun
          | (.ok value, state) => (rest.threadedBy l state).advance value
          | (.error failure, state) => .failed failure (rest.threadedBy l state)
    else .suspended kind payload (rest.threadedBy l state)
  | .completed value rest, state =>
    .ofPlan (l.finish state value) fun value => .completed value (.spent rest.held)
  | .failed failure rest, state => .failed failure (rest.threadedBy l state)

end

/-- Something that wraps a process. -/
structure Layer where
  /-- The wrapped process. -/
  apply : Process → Process

/-- The layer of a handler. -/
def Handler.toLayer (h : Handler) : Layer := ⟨Process.handledBy h⟩

/-- The layer of a state. -/
def Threaded.toLayer {σ : Type} (l : Threaded σ) : Layer := ⟨fun p => p.threadedBy l l.initial⟩

/-- Layers, outermost first. -/
structure Stack where
  /-- The layers, outermost first. -/
  layers : List Layer

namespace Stack

/-- A stack without layers. -/
def empty : Stack := ⟨[]⟩

/-- Adds a layer inside the others. -/
def layer (s : Stack) (l : Layer) : Stack := ⟨s.layers ++ [l]⟩

/-- The number of layers. -/
def size (s : Stack) : Nat := s.layers.length

/-- Whether there are no layers. -/
def isEmpty (s : Stack) : Bool := s.layers.isEmpty

/-- Applies the layers to a process: the last one first, so that it sees each command first. -/
def interpret (s : Stack) (p : Process) : Process :=
  s.layers.foldr (fun l inner => l.apply inner) p

/-- A stack is itself a layer. -/
def toLayer (s : Stack) : Layer := ⟨s.interpret⟩

end Stack

end Effects
