import Effects.Proofs.Observation

/-!
# Contexts of a running process

While a process is advanced, the one that is really running lies somewhere inside: in a part of a
sequence, under a layer, in the handler of a layer, in the body of a scope. A `Frame` is one piece
of code around it, in the state in which it waits, and a `Context` is a list of them.

A frame never acts on its own while the process inside runs. What it does is decided by how the
advance inside ends: `Context.settle_run` settles the inside first. A command that no frame claims
comes out with the whole context around the process that waits for the answer.
-/

namespace Effects

/-- A piece of code around a running process. -/
inductive Frame where
  /-- The first part of a sequence runs; the second part is to come, and owns claims already. -/
  | first (owned : List Claim) (next : Value → Plan Process)
  /-- The second part of a sequence runs. -/
  | second
  /-- The value will be transformed, unless it has been already. -/
  | mapped (f : Option (Value → Plan Value))
  /-- A step of a loop runs; the loop, which owns claims of its own, goes on with its value. -/
  | looping (owned : List Claim) (next : Value → Run)
  /-- The body of a capture scope runs. -/
  | scope (token : Token)
  /-- The layer of a handler lies around the process. -/
  | handled (h : Handler)
  /-- The handler of a layer runs, and the process inside the layer waits for its value. -/
  | serving (kind : Kind) (inner : Process)
  /-- A state layer lies around the process. -/
  | threaded {σ : Type} (l : Threaded σ) (state : σ)

namespace Frame

/-- The frame around a process at rest. -/
def process : Frame → Process → Process
  | first owned next, p => p.andThenHolding owned next
  | second, p => p.dropAtEnd
  | mapped f, p => p.mapOnce f
  | looping owned next, p => p.step owned next
  | scope token, p => p.within token
  | handled h, p => p.handledBy h
  | serving kind inner, p => .serving kind inner p
  | threaded l state, p => p.threadedBy l state

/-- The frame around an advance under way. -/
def run : Frame → Run → Run
  | first owned next, r => r.andThenHolding owned next
  | second, r => r.dropAtEnd
  | mapped f, r => r.mapOnce f
  | looping owned next, r => r.step owned next
  | scope token, r => r.within token
  | handled h, r => r.handledBy h
  | serving kind inner, r => .serving kind inner r
  | threaded l state, r => r.threadedBy l state

/-- The frame does not answer the commands of a kind itself. -/
def Admits (kind : Kind) : Frame → Prop
  | scope token => kind ≠ .escape token
  | handled h => kind ≠ h.kind
  | threaded l _ => kind ≠ l.kind
  | _ => True

/-- What a frame reports when a command passes it. -/
def reports (kind : Kind) : Frame → List Event
  | scope token =>
    if kind.isEscape then
      [⟨.debug, "escape passing through scope", [("kind", kind.shown), ("scope", token.shown)],
        false⟩]
    else []
  | handled h =>
    [⟨.trace, "passing command through", [("kind", kind.shown), ("handling", h.kind.shown)], false⟩]
  | serving handling _ =>
    [⟨.trace, "handler suspended", [("kind", kind.shown), ("handling", handling.shown)], false⟩]
  | _ => []

theorem advance_process (frame : Frame) (p : Process) (v : Value) :
    (frame.process p).advance v = frame.run (p.advance v) := by
  cases frame with
  | first => exact Process.advance_andThenHolding ..
  | second => exact Process.advance_dropAtEnd ..
  | mapped => exact Process.advance_mapOnce ..
  | looping => exact Process.advance_step ..
  | scope => exact Process.advance_within ..
  | handled => exact Process.advance_handledBy ..
  | serving => exact Process.advance_serving ..
  | threaded => exact Process.advance_threadedBy ..

theorem run_act (frame : Frame) (a : Act) (next : a.Answer → Run) :
    frame.run (.act a next) = .act a fun answer => frame.run (next answer) := by
  cases frame <;> rfl

end Frame

/-- Frames around a running process, the outermost first. -/
abbrev Context := List Frame

namespace Run

/-- Reports events and goes on. -/
def reportingAll (events : List Event) (next : Run) : Run :=
  events.foldr (fun event rest => .act (.report event) fun _ => rest) next

theorem reportingAll_append (events more : List Event) (next : Run) :
    reportingAll (events ++ more) next = reportingAll events (reportingAll more next) :=
  List.foldr_append

end Run

theorem World.settle_reportingAll (w : World) (events : List Event) (next : Run) :
    w.settle (.reportingAll events next) = (w.reported events).settle next := by
  induction events generalizing w with
  | nil => simp [Run.reportingAll]
  | cons event events ih =>
    rw [show event :: events = [event] ++ events from rfl, World.reported_append, ← ih]
    rfl

/-- A command that a frame does not answer comes out with the frame around what is left. -/
theorem Frame.run_suspended {frame : Frame} {kind : Kind} (h : frame.Admits kind)
    (payload : Payload) (rest : Process) :
    frame.run (.suspended kind payload rest) =
      .reportingAll (frame.reports kind) (.suspended kind payload (frame.process rest)) := by
  cases frame with
  | scope token =>
    simp only [Frame.run, Run.within, if_neg (show kind ≠ .escape token from h), Frame.reports]
    split <;> rfl
  | handled g => simp only [Frame.run, Run.handledBy, if_neg (show kind ≠ g.kind from h)]; rfl
  | threaded l state =>
    simp only [Frame.run, Run.threadedBy, if_neg (show kind ≠ l.kind from h)]; rfl
  | _ => rfl

theorem Frame.run_reportingAll (frame : Frame) (events : List Event) (next : Run) :
    frame.run (.reportingAll events next) = .reportingAll events (frame.run next) := by
  induction events with
  | nil => rfl
  | cons event events ih =>
    show frame.run (.act (.report event) fun _ => .reportingAll events next) = _
    rw [Frame.run_act, ih]
    rfl

theorem Frame.isLog_reports {frame : Frame} {kind : Kind} {event : Event}
    (h : event ∈ frame.reports kind) : event.isLog = false := by
  cases frame <;> simp [reports] at h <;> grind

namespace Context

/-- The context around a process at rest. -/
def process (context : Context) (p : Process) : Process := context.foldr Frame.process p

/-- The context around an advance under way. -/
def run (context : Context) (r : Run) : Run := context.foldr Frame.run r

/-- What the frames of a context report when a command passes them, from the inside out. -/
def reports (kind : Kind) (context : Context) : List Event :=
  context.reverse.flatMap (Frame.reports kind)

theorem run_append (outer inner : Context) (r : Run) :
    run (outer ++ inner) r = run outer (run inner r) :=
  List.foldr_append

theorem advance_process (context : Context) (p : Process) (v : Value) :
    (process context p).advance v = run context (p.advance v) := by
  induction context with
  | nil => rfl
  | cons frame context ih =>
    show (frame.process (process context p)).advance v = _
    rw [Frame.advance_process, ih]
    rfl

theorem run_act (context : Context) (a : Act) (next : a.Answer → Run) :
    run context (.act a next) = .act a fun answer => run context (next answer) := by
  induction context with
  | nil => rfl
  | cons frame context ih =>
    show frame.run (run context (.act a next)) = _
    rw [ih, Frame.run_act]
    rfl

theorem run_ofPlan {α : Type} (context : Context) (plan : Plan α) (next : α → Run) :
    run context (.ofPlan plan next) = .ofPlan plan fun a => run context (next a) := by
  induction plan with
  | done a => rfl
  | act a rest ih =>
    rw [Run.ofPlan, run_act]
    exact congrArg (Run.act a) (funext ih)

theorem run_releasing (context : Context) (claims : List Claim) (next : Unit → Run) :
    run context (.releasing claims next) = .releasing claims fun _ => run context (next ()) := by
  cases claims with
  | nil => rfl
  | cons claim claims => exact run_act context _ _

/-- A command that no frame of a context answers comes out with the context around what is left. -/
theorem run_suspended {context : Context} {kind : Kind} (h : ∀ frame ∈ context, frame.Admits kind)
    (payload : Payload) (rest : Process) :
    run context (.suspended kind payload rest) =
      .reportingAll (reports kind context) (.suspended kind payload (process context rest)) := by
  induction context with
  | nil => rfl
  | cons frame context ih =>
    show frame.run (run context (.suspended kind payload rest)) = _
    rw [ih fun f hf => h f (List.mem_cons_of_mem _ hf), Frame.run_reportingAll,
      Frame.run_suspended (h frame List.mem_cons_self), ← Run.reportingAll_append]
    simp only [reports, List.reverse_cons, List.flatMap_append, List.flatMap_cons, List.flatMap_nil,
      List.append_nil]
    rfl

theorem isLog_reports {context : Context} {kind : Kind} {event : Event}
    (h : event ∈ reports kind context) : event.isLog = false := by
  obtain ⟨frame, -, hframe⟩ := List.mem_flatMap.mp h
  exact Frame.isLog_reports hframe

end Context

/-- The run that ends at once with a step. -/
def Step.run : Step → Run
  | suspended command rest => .suspended command.kind command.payload rest
  | completed value rest => .completed value rest
  | failed failure rest => .failed failure rest

/-- The inside of a context settles first, and the context goes on with how it has ended. -/
theorem Context.settle_run (context : Context) (w : World) (r : Run) :
    w.settle (Context.run context r) =
      (w.settle r).2.settle (Context.run context (w.settle r).1.run) := by
  induction r using Run.induct generalizing w with
  | act a next ih =>
    rw [Context.run_act]
    exact ih _ _
  | suspended | completed | failed => rfl

theorem Frame.run_ofPlan {α : Type} (frame : Frame) (plan : Plan α) (next : α → Run) :
    frame.run (.ofPlan plan next) = .ofPlan plan fun a => frame.run (next a) :=
  Context.run_ofPlan [frame] plan next

theorem Frame.run_releasing (frame : Frame) (claims : List Claim) (next : Unit → Run) :
    frame.run (.releasing claims next) = .releasing claims fun _ => frame.run (next ()) :=
  Context.run_releasing [frame] claims next

theorem Frame.settle_run (frame : Frame) (w : World) (r : Run) :
    w.settle (frame.run r) = (w.settle r).2.settle (frame.run (w.settle r).1.run) :=
  Context.settle_run [frame] w r

/-! ## How frames go on -/

/-- What a handler reports when it is called. -/
def Handler.dispatch (h : Handler) : Event :=
  ⟨.trace, "dispatching command to handler", [("kind", h.kind.shown)], false⟩

/-- What a state layer reports before it answers a command. -/
def Threaded.update {σ : Type} (l : Threaded σ) : Event :=
  ⟨.trace, "updating interpreter state", [("kind", l.kind.shown)], false⟩

theorem Run.handledBy_self (h : Handler) (payload : Payload) (rest : Process) :
    (Run.suspended h.kind payload rest).handledBy h =
      .act (.report h.dispatch) fun _ =>
        .serving h.kind (rest.handledBy h) (h.handle payload) := by
  rw [Run.handledBy, if_pos rfl]
  rfl

theorem Run.threadedBy_self {σ : Type} (l : Threaded σ) (state : σ) (payload : Payload)
    (rest : Process) :
    (Run.suspended l.kind payload rest).threadedBy l state =
      .act (.report l.update) fun _ => .ofPlan (l.answer state payload) fun
        | (.ok v, state) => (rest.threadedBy l state).advance v
        | (.error failure, state) => .failed failure (rest.threadedBy l state) := by
  rw [Run.threadedBy, if_pos rfl]
  rfl

namespace World

section

variable {w w₁ : World} {r : Run} {v : Value} {payload : Payload} {rest : Process}

theorem settle_first (h : w.settle r = (.completed v rest, w₁)) (owned : List Claim)
    (next : Value → Plan Process) :
    w.settle (r.andThenHolding owned next) =
      ((w₁.carryOut (next v)).2.release rest.held).settle
        (w₁.carryOut (next v)).1.start.dropAtEnd := by
  have hrun := (Frame.first owned next).settle_run w r
  rw [h] at hrun
  refine hrun.trans ((settle_ofPlan w₁ (next v) _).trans ?_)
  exact settle_releasing _ rest.held fun _ => (w₁.carryOut (next v)).1.start.dropAtEnd

theorem settle_step (h : w.settle r = (.completed v rest, w₁)) (owned : List Claim)
    (next : Value → Run) :
    w.settle (r.step owned next) = (w₁.release rest.held).settle (next v) := by
  have hrun := (Frame.looping owned next).settle_run w r
  rw [h] at hrun
  exact hrun.trans (settle_releasing w₁ rest.held fun _ => next v)

theorem settle_serving (h : w.settle r = (.completed v rest, w₁)) (kind : Kind) (inner : Process) :
    w.settle (.serving kind inner r) = (w₁.release rest.held).settle (inner.advance v) := by
  have hrun := (Frame.serving kind inner).settle_run w r
  rw [h] at hrun
  exact hrun.trans (settle_releasing w₁ rest.held fun _ => inner.advance v)

theorem settle_handledBy {h : Handler}
    (hinside : w.settle r = (.suspended ⟨h.kind, payload⟩ rest, w₁)) :
    w.settle (r.handledBy h) =
      (w₁.reported [h.dispatch]).settle
        (.serving h.kind (rest.handledBy h) (h.handle payload)) := by
  have hrun := (Frame.handled h).settle_run w r
  rw [hinside] at hrun
  exact hrun.trans (congrArg w₁.settle (Run.handledBy_self h payload rest))

theorem settle_threadedBy {σ : Type} {l : Threaded σ}
    (hinside : w.settle r = (.suspended ⟨l.kind, payload⟩ rest, w₁)) (state : σ) :
    w.settle (r.threadedBy l state) =
      ((w₁.reported [l.update]).carryOut (l.answer state payload)).2.settle
        (match ((w₁.reported [l.update]).carryOut (l.answer state payload)).1 with
          | (.ok v, state) => (rest.threadedBy l state).advance v
          | (.error failure, state) => .failed failure (rest.threadedBy l state)) := by
  have hrun := (Frame.threaded l state).settle_run w r
  rw [hinside] at hrun
  refine hrun.trans ((congrArg w₁.settle (Run.threadedBy_self l state payload rest)).trans ?_)
  rw [settle_act, settle_ofPlan]
  rfl

end

end World

end Effects
