import Effects.Proofs.Exit
import Effects.Proofs.Remains

/-!
# Behaviours

The behaviour of a run is what it does until it first ends: the acts it performs, the commands it
yields, and its value or failure. Two things are left out. Reports and the giving up of claims do
not count, so a process that keeps its parts longer than another may behave in the same way. And
nothing is said about what remains after the end.

The combinators of processes become operations on behaviours: sequences, steps of loops and maps are
`Behaviour.bind`, and a capture scope is `Behaviour.catching`. The layer for `call-cc` comes in here
as a second reading of a run, in which each `call-cc` command is served on the spot.
-/

namespace Effects

/-- What a run does until it first ends. -/
inductive Behaviour where
  /-- Performs an act and goes on with its answer. -/
  | act (a : Act) (next : a.Answer → Behaviour)
  /-- Yields a command and goes on with its answer. -/
  | yielding (kind : Kind) (payload : Payload) (next : Value → Behaviour)
  /-- Ends with a value. -/
  | value (v : Value)
  /-- Ends with a failure. -/
  | failure (f : Failure)

namespace Behaviour

/-- Performs an act, unless it is a report or gives up claims. -/
def doing : (a : Act) → (a.Answer → Behaviour) → Behaviour
  | .report _, next => next ()
  | .release _, next => next ()
  | a, next => .act a next

/-- Goes on with the value of a behaviour. -/
def bind (k : Value → Behaviour) : Behaviour → Behaviour
  | .act a next => .act a fun answer => (next answer).bind k
  | .yielding kind payload next => .yielding kind payload fun v => (next v).bind k
  | .value v => k v
  | .failure f => .failure f

/-- Ends at the escape with a token, with the value of the escape. -/
def catching (token : Token) : Behaviour → Behaviour
  | .act a next => .act a fun answer => (next answer).catching token
  | .yielding kind payload next =>
    if kind = .escape token then
      match payload.toValue kind with
      | .ok v => .value v
      | .error f => .failure f
    else .yielding kind payload fun v => (next v).catching token
  | .value v => .value v
  | .failure f => .failure f

/-- Runs the body of a `call-cc` command in a scope of its own and goes on with the outcome. -/
def served (next : Value → Behaviour) : Option (Token → Behaviour) → Behaviour
  | some enter => .act .mint fun (token : Token) => ((enter token).catching token).bind next
  | none => .failure (.payloadMismatch Kind.callCC.shown "capture body")

theorem bind_doing (k : Value → Behaviour) (a : Act) (next : a.Answer → Behaviour) :
    (doing a next).bind k = doing a fun answer => (next answer).bind k := by
  cases a <;> rfl

theorem catching_doing (token : Token) (a : Act) (next : a.Answer → Behaviour) :
    (doing a next).catching token = doing a fun answer => (next answer).catching token := by
  cases a <;> rfl

theorem bind_assoc (b : Behaviour) (k m : Value → Behaviour) :
    (b.bind k).bind m = b.bind fun v => (k v).bind m := by
  induction b with
  | act a next ih => exact congrArg (Behaviour.act a) (funext ih)
  | yielding kind payload next ih => exact congrArg (Behaviour.yielding kind payload) (funext ih)
  | value | failure => rfl

theorem bind_served (next k : Value → Behaviour) (body : Option (Token → Behaviour)) :
    (served next body).bind k = served (fun v => (next v).bind k) body := by
  cases body with
  | none => rfl
  | some enter =>
    exact congrArg (Behaviour.act .mint) (funext fun token => bind_assoc _ next k)

theorem bind_value (b : Behaviour) : b.bind .value = b := by
  induction b with
  | act a next ih => exact congrArg (Behaviour.act a) (funext ih)
  | yielding kind payload next ih => exact congrArg (Behaviour.yielding kind payload) (funext ih)
  | value | failure => rfl

end Behaviour

mutual

/-- The behaviour of a process that is advanced. With `serve`, `call-cc` commands are served. -/
def Process.behaviour (serve : Bool) : Process → Value → Behaviour
  | .spent _, _ => .failure .alreadyCompleted
  | .paused _ resume, v => (resume v).behaviour serve

/-- The behaviour of a run. With `serve`, its `call-cc` commands are served. -/
def Run.behaviour (serve : Bool) : Run → Behaviour
  | .act a next => .doing a fun answer => (next answer).behaviour serve
  | .suspended kind payload rest =>
    if serve = true ∧ kind = .callCC then
      .served (rest.behaviour serve) (payload.behaviour serve)
    else .yielding kind payload (rest.behaviour serve)
  | .completed v _ => .value v
  | .failed f _ => .failure f

/-- The behaviour of the body in a payload. -/
def Payload.behaviour (serve : Bool) : Payload → Option (Token → Behaviour)
  | .body _ enter => some fun token => (enter token).behaviour serve
  | _ => none

end

namespace Run

variable {serve : Bool}

theorem behaviour_advance (p : Process) :
    p.behaviour serve = fun v => (p.advance v).behaviour serve := by
  cases p <;> rfl

@[simp]
theorem behaviour_act (a : Act) (next : a.Answer → Run) :
    (Run.act a next).behaviour serve = .doing a fun answer => (next answer).behaviour serve := rfl

@[simp]
theorem behaviour_releasing (claims : List Claim) (next : Unit → Run) :
    (Run.releasing claims next).behaviour serve = (next ()).behaviour serve := by
  cases claims <;> rfl

@[simp]
theorem behaviour_reporting (level : Level) (message : String) (fields : List (String × String))
    (next : Unit → Run) :
    (Run.reporting level message fields next).behaviour serve = (next ()).behaviour serve := rfl

@[simp]
theorem behaviour_aborted (f : Failure) : (Run.aborted f).behaviour serve = .failure f := rfl

theorem behaviour_suspended {kind : Kind} (h : ¬ (serve = true ∧ kind = .callCC))
    (payload : Payload) (rest : Process) :
    (Run.suspended kind payload rest).behaviour serve =
      .yielding kind payload fun v => (rest.advance v).behaviour serve := by
  rw [Run.behaviour, if_neg h, behaviour_advance]

theorem behaviour_served (payload : Payload) (rest : Process) :
    (Run.suspended .callCC payload rest).behaviour true =
      .served (fun v => (rest.advance v).behaviour true) (payload.behaviour true) := by
  rw [Run.behaviour, if_pos ⟨rfl, rfl⟩, behaviour_advance]

@[simp]
theorem behaviour_reportingAll (events : List Event) (next : Run) :
    (Run.reportingAll events next).behaviour serve = next.behaviour serve := by
  induction events with
  | nil => rfl
  | cons event events ih => exact ih

/-- What comes after a plan can be replaced by what behaves alike, served or not. -/
theorem behaviour_ofPlan {α : Type} {serve' : Bool} (plan : Plan α) {next next' : α → Run}
    (h : ∀ a, (next a).behaviour serve = (next' a).behaviour serve') :
    (Run.ofPlan plan next).behaviour serve = (Run.ofPlan plan next').behaviour serve' := by
  induction plan with
  | done a => exact h a
  | act a rest ih => exact congrArg (Behaviour.doing a) (funext ih)

end Run

/-! ## The combinators -/

section

variable {serve : Bool}

theorem Frame.behaviour_failed (frame : Frame) (failure : Failure) (rest : Process) :
    (frame.run (.failed failure rest)).behaviour serve = .failure failure := by
  rw [Frame.run_failed, Run.behaviour_releasing]
  rfl

/-- A frame that answers no command, and that goes on after a value with `k`, has the behaviour of a
sequence. -/
theorem Frame.behaviour_run (frame : Frame) (hadmits : ∀ kind, frame.Admits kind)
    {k : Value → Behaviour}
    (hcompleted : ∀ v rest, (frame.run (.completed v rest)).behaviour serve = k v) (r : Run) :
    (frame.run r).behaviour serve = (r.behaviour serve).bind k := by
  induction r using Run.induct with
  | act a next ih =>
    rw [Frame.run_act, Run.behaviour_act, Run.behaviour_act, Behaviour.bind_doing]
    exact congrArg (Behaviour.doing a) (funext ih)
  | suspended kind payload rest ih =>
    have hrest : (fun v => ((frame.process rest).advance v).behaviour serve) =
        fun v => ((rest.advance v).behaviour serve).bind k :=
      funext fun v => by rw [Frame.advance_process, ih]
    rw [Frame.run_suspended (hadmits kind), Run.behaviour_reportingAll]
    by_cases h : serve = true ∧ kind = .callCC
    · -- a command that is served is itself a sequence, so this is associativity
      obtain ⟨rfl, rfl⟩ := h
      rw [Run.behaviour_served, Run.behaviour_served, hrest]
      cases payload.behaviour true with
      | none => rfl
      | some enter =>
        refine congrArg (Behaviour.act .mint) (funext fun token => ?_)
        exact (Behaviour.bind_assoc ..).symm
    · rw [Run.behaviour_suspended h, Run.behaviour_suspended h, hrest]
      rfl
  | completed v rest => exact hcompleted v rest
  | failed failure rest => exact frame.behaviour_failed failure rest

theorem Run.behaviour_dropAtEnd (r : Run) : r.dropAtEnd.behaviour serve = r.behaviour serve := by
  have hsecond : r.dropAtEnd.behaviour serve = (r.behaviour serve).bind .value :=
    Frame.second.behaviour_run (fun _ => trivial)
      (fun v rest => behaviour_releasing rest.held fun _ => .ended v) r
  rw [hsecond, Behaviour.bind_value]

theorem Run.behaviour_andThenHolding (owned : List Claim) (next : Value → Plan Process) (r : Run) :
    (r.andThenHolding owned next).behaviour serve =
      (r.behaviour serve).bind fun v => (next v).start.behaviour serve := by
  refine (Frame.first owned next).behaviour_run (fun _ => trivial) (fun v rest => ?_) r
  exact behaviour_ofPlan (next v) fun p => by rw [behaviour_releasing, behaviour_dropAtEnd]

theorem Run.behaviour_mapOnce (f : Value → Plan Value) (r : Run) :
    (r.mapOnce (some f)).behaviour serve =
      (r.behaviour serve).bind fun v => (Run.ofPlan (f v) Run.ended).behaviour serve :=
  (Frame.mapped (some f)).behaviour_run (fun _ => trivial)
    (fun v _ => behaviour_ofPlan (f v) fun _ => rfl) r

theorem Run.behaviour_step (owned : List Claim) (next : Value → Run) (r : Run) :
    (r.step owned next).behaviour serve =
      (r.behaviour serve).bind fun v => (next v).behaviour serve :=
  (Frame.looping owned next).behaviour_run (fun _ => trivial)
    (fun v rest => behaviour_releasing rest.held fun _ => next v) r

theorem Run.behaviour_serving (kind : Kind) (inner : Process) (r : Run) :
    (Run.serving kind inner r).behaviour serve =
      (r.behaviour serve).bind fun v => (inner.advance v).behaviour serve :=
  (Frame.serving kind inner).behaviour_run (fun _ => trivial)
    (fun v rest => behaviour_releasing rest.held fun _ => inner.advance v) r

end

/-- A scope has the behaviour that catches its escape. -/
theorem Run.behaviour_within (token : Token) (r : Run) :
    (r.within token).behaviour false = (r.behaviour false).catching token := by
  induction r using Run.induct with
  | act a next ih =>
    rw [Run.within, Run.behaviour_act, Run.behaviour_act, Behaviour.catching_doing]
    exact congrArg (Behaviour.doing a) (funext ih)
  | suspended kind payload rest ih =>
    rw [behaviour_suspended (fun h => Bool.noConfusion h.1)]
    by_cases hown : kind = .escape token
    · subst hown
      rw [within_escape, behaviour_reporting, behaviour_releasing, Behaviour.catching, if_pos rfl]
      cases payload.toValue (.escape token) <;> rfl
    · have hadmits : (Frame.scope token).Admits kind := hown
      show ((Frame.scope token).run (.suspended kind payload rest)).behaviour false = _
      rw [Frame.run_suspended hadmits, behaviour_reportingAll,
        behaviour_suspended (fun h => Bool.noConfusion h.1), Behaviour.catching, if_neg hown]
      exact congrArg (Behaviour.yielding kind payload)
        (funext fun v => by rw [Frame.advance_process]; exact ih v)
  | completed v rest => exact behaviour_releasing _ fun _ => .ended v
  | failed failure rest => exact behaviour_releasing _ fun _ => .aborted failure

mutual

/-- Under the layer for `call-cc` a process behaves as if its commands were served on the spot. -/
theorem Process.behaviour_capturing :
    ∀ (p : Process) (v : Value), p.capturing.behaviour false v = p.behaviour true v
  | .spent _, _ => rfl
  | .paused _ resume, v => Run.behaviour_capturing (resume v)

theorem Run.behaviour_capturing :
    ∀ r : Run, r.capturing.behaviour false = r.behaviour true
  | .act a next =>
    congrArg (Behaviour.doing a) (funext fun answer => Run.behaviour_capturing (next answer))
  | .suspended kind payload rest => by
    have hrest : (fun v => ((rest.handledBy captureHandler).advance v).behaviour false) =
        rest.behaviour true := by
      rw [← Run.behaviour_advance, Process.handledBy_captureHandler]
      exact funext (Process.behaviour_capturing rest)
    rw [← Run.handledBy_captureHandler, Run.handledBy, Run.behaviour]
    by_cases hkind : kind = .callCC
    · subst hkind
      rw [if_pos (show Kind.callCC = captureHandler.kind from rfl), if_pos ⟨rfl, rfl⟩,
        Run.behaviour_reporting, Run.behaviour_serving, hrest, Payload.behaviour_capturing payload,
        Behaviour.bind_served]
      rfl
    · rw [if_neg (show kind ≠ captureHandler.kind from hkind), if_neg fun h => hkind h.2,
        Run.behaviour_reporting, Run.behaviour_suspended fun h => Bool.noConfusion h.1, hrest]
  | .completed _ _ => rfl
  | .failed _ _ => rfl

/-- The handler for `call-cc` runs a body as if it were served on the spot. -/
theorem Payload.behaviour_capturing : ∀ payload : Payload,
    (captureHandler.handle payload).behaviour false = .served .value (payload.behaviour true)
  | .none => rfl
  | .value _ => rfl
  | .future pending => Run.behaviour_releasing pending.held fun _ => .aborted _
  | .body held enter => by
    refine congrArg (Behaviour.act .mint) (funext fun (token : Token) => ?_)
    show ((enter token).capturing.within token).behaviour false = _
    rw [Run.behaviour_within, Run.behaviour_capturing (enter token), Behaviour.bind_value]

end

end Effects
