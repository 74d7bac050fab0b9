import Effects.Log
import Effects.Proofs.Awaiting
import Effects.Proofs.Remains

/-!
# Failures come out unchanged

When a piece of code fails, nothing around it runs any more. The frames around it give up what they
hold, or stay in place, and the advance ends with the very failure; so does whoever drives the
process.

What a failure leaves of a context is `Context.abandon`, which does not look at the code that the
frames would run after a value. `World.Reaches` says how an advance comes to a piece of code: the
piece may lie deep inside from the beginning, or its frames may have come up on the way, as one part
of a sequence is followed by the next.
-/

namespace Effects

/-! ## Pieces of code in focus -/

/-- A stack whose layers are frames is a context. -/
theorem Stack.advance_interpret {layers : List Layer} {frames : Context}
    (h : List.Forall₂ (fun layer frame => layer.apply = frame.process) layers frames) (p : Process)
    (v : Value) : ((Stack.mk layers).interpret p).advance v = frames.run (p.advance v) := by
  induction h with
  | nil => rfl
  | @cons layer frame layers frames hlayer _ ih =>
    show (layer.apply ((Stack.mk layers).interpret p)).advance v =
      frame.run (Context.run frames (p.advance v))
    rw [hlayer, Frame.advance_process, ih]

/-- While the first run is under way, from the first world on, there comes a moment at which the
second run is the piece of code that goes on, in the second world and with a context around it. -/
inductive World.Reaches : World → Run → World → Context → Run → Prop where
  | here (w : World) (r : Run) : Reaches w r w [] r
  /-- The piece lies inside a frame: in the first or second part of a sequence, under a map, in a
  step of a fold, in the body of a scope, under a layer, or in the run of a handler at work. -/
  | inside (frame : Frame) {w w' : World} {r focus : Run} {context : Context}
    (h : Reaches w r w' context focus) : Reaches w (frame.run r) w' (frame :: context) focus
  /-- The piece lies inside a stack, whose layers are frames. -/
  | stacked {layers : List Layer} {frames : Context}
    (hlayers : List.Forall₂ (fun layer frame => layer.apply = frame.process) layers frames)
    {w w' : World} {p : Process} {v : Value} {focus : Run} {context : Context}
    (h : Reaches w (p.advance v) w' context focus) :
    Reaches w (((Stack.mk layers).interpret p).advance v) w' (frames ++ context) focus
  /-- Code acts first: a process that is built by its first advance, for instance. -/
  | acting {w w' : World} {a : Act} {next : a.Answer → Run} {focus : Run} {context : Context}
    (h : Reaches (w.perform a).2 (next (w.perform a).1) w' context focus) :
    Reaches w (.act a next) w' context focus
  /-- The first part of a sequence has completed, and the second part has been built. -/
  | second {w w₁ w₂ w' : World} {r focus : Run} {v : Value} {rest p : Process} {owned : List Claim}
    {next : Value → Plan Process} {context : Context}
    (hfirst : w.settle r = (.completed v rest, w₁)) (hbuild : w₁.carryOut (next v) = (p, w₂))
    (h : Reaches (w₂.release rest.held) p.start w' context focus) :
    Reaches w (r.andThenHolding owned next) w' (.second :: context) focus
  /-- A step of a loop has completed. -/
  | looping {w w₁ w' : World} {r focus : Run} {v : Value} {rest : Process} {owned : List Claim}
    {next : Value → Run} {context : Context} (hstep : w.settle r = (.completed v rest, w₁))
    (h : Reaches (w₁.release rest.held) (next v) w' context focus) :
    Reaches w (r.step owned next) w' context focus
  /-- A handler has been called with a command. -/
  | dispatched {w w₁ w' : World} {r focus : Run} {g : Handler} {payload : Payload} {rest : Process}
    {context : Context} (hinside : w.settle r = (.suspended ⟨g.kind, payload⟩ rest, w₁))
    (h : Reaches (w₁.reported [g.dispatch])
      (.serving g.kind (rest.handledBy g) (g.handle payload)) w' context focus) :
    Reaches w (r.handledBy g) w' context focus
  /-- The run of a handler has completed, and the process inside the layer goes on. -/
  | served {w w₁ w' : World} {r focus : Run} {kind : Kind} {v : Value} {rest inner : Process}
    {context : Context} (hserving : w.settle r = (.completed v rest, w₁))
    (h : Reaches (w₁.release rest.held) (inner.advance v) w' context focus) :
    Reaches w (.serving kind inner r) w' context focus
  /-- A state layer has answered a command, and the process inside goes on. -/
  | answered {σ : Type} {l : Threaded σ} {state state' : σ} {w w₁ w₂ w' : World} {r focus : Run}
    {payload : Payload} {rest : Process} {v : Value} {context : Context}
    (hinside : w.settle r = (.suspended ⟨l.kind, payload⟩ rest, w₁))
    (hanswer : (w₁.reported [l.update]).carryOut (l.answer state payload) = ((.ok v, state'), w₂))
    (h : Reaches w₂ ((rest.threadedBy l state').advance v) w' context focus) :
    Reaches w (r.threadedBy l state) w' context focus
  /-- A state layer cannot answer a command: the piece in focus is its answer, and it fails. -/
  | refused {σ : Type} {l : Threaded σ} {state state' : σ} {w w₁ w₂ : World} {r : Run}
    {payload : Payload} {rest : Process} {failure : Failure}
    (hinside : w.settle r = (.suspended ⟨l.kind, payload⟩ rest, w₁))
    (hanswer : (w₁.reported [l.update]).carryOut (l.answer state payload) =
      ((.error failure, state'), w₂)) :
    Reaches w (r.threadedBy l state) w₂ [] (.failed failure (rest.threadedBy l state'))

namespace World.Reaches

/-- From that moment on, the advance is the piece of code in its context. -/
theorem settle_eq {w w' : World} {r focus : Run} {context : Context}
    (h : Reaches w r w' context focus) : w.settle r = w'.settle (context.run focus) := by
  induction h with
  | here w r => rfl
  | inside frame _ ih =>
    rw [frame.settle_run, ih, ← frame.settle_run]
    rfl
  | @stacked layers frames hlayers w w' p v focus context _ ih =>
    rw [Stack.advance_interpret hlayers, Context.settle_run, ih, ← Context.settle_run,
      ← Context.run_append]
  | acting _ ih => exact ih
  | @second w w₁ w₂ w' r focus v rest p owned next context hfirst hbuild _ ih =>
    show _ = w'.settle (Frame.second.run (context.run focus))
    rw [settle_first hfirst, hbuild, Frame.settle_run, ← ih, ← Frame.settle_run]
    rfl
  | looping hstep _ ih => exact (settle_step hstep _ _).trans ih
  | dispatched hinside _ ih => exact (settle_handledBy hinside).trans ih
  | served hserving _ ih => exact (settle_serving hserving _ _).trans ih
  | answered hinside hanswer _ ih =>
    rw [settle_threadedBy hinside, hanswer]
    exact ih
  | refused hinside hanswer =>
    rw [settle_threadedBy hinside, hanswer]
    rfl

theorem context {w w' : World} {r focus : Run} {inner : Context}
    (h : Reaches w r w' inner focus) (outer : Context) :
    Reaches w (outer.run r) w' (outer ++ inner) focus := by
  induction outer with
  | nil => exact h
  | cons frame outer ih => exact .inside frame ih

/-- The advance fails as the piece in focus has failed, and gives up claims, at most. -/
theorem settle_failed {w w' w₁ : World} {r focus : Run} {context : Context} {failure : Failure}
    {rest : Process} (h : Reaches w r w' context focus)
    (hfailed : w'.settle focus = (.failed failure rest, w₁)) :
    w.settle r =
      (.failed failure (context.abandon rest).2, w₁.release (context.abandon rest).1) := by
  rw [h.settle_eq, Context.settle_run, hfailed]
  exact context.settle_failed w₁ failure rest

end World.Reaches

/-! ## Drivers -/

/-- The driver that is answered from outside has come from one advance to another, with all commands
answered that were yielded on the way. -/
inductive Responder.Reaches {σ : Type} (respond : Responder σ) :
    World → Run → σ → World → Run → σ → Prop where
  | here (w : World) (r : Run) (state : σ) : Reaches respond w r state w r state
  | answered {w w₁ w₂ w' : World} {r r' : Run} {state state₁ state' : σ} {command : Command}
    {rest : Process} {v : Value} (hyield : w.settle r = (.suspended command rest, w₁))
    (hanswer : w₁.carryOut (respond state command) = ((.ok v, state₁), w₂))
    (h : Reaches respond w₂ (rest.advance v) state₁ w' r' state') :
    Reaches respond w r state w' r' state'

/-- In a poll of the bridge, the loop has come to an advance of the process, in the second machine.
The poll may begin with this advance, or resume the operation waited for and go on with its value;
and it goes on in the same way if the operation of the next wait ends at once. -/
inductive Loop.Reaches (who : Party) : Machine → Loop → Machine → Run → Prop where
  | start (m : Machine) (p : Process) : Reaches who m (.fresh p) m p.start
  | resumed {m m₁ : Machine} {n : Nat} {r : Resting} {rest : Process} {v : Value}
    (hended : m.resume who r = (.ended (.ok v), m₁)) :
    Reaches who m (.waiting n r rest) m₁ (rest.advance v)
  | again {m m₁ m₂ : Machine} {loop : Loop} {r : Run} {pending : Pending} {rest : Process}
    {w : World} {v : Value} (h : Reaches who m loop m₁ r)
    (hyield : m₁.world.settle r = (.suspended ⟨.wait, .future pending⟩ rest, w))
    (hended : (({ m₁ with world := w }).during
        (Plan.report .debug "awaiting pending operation" [])).2.follow who pending.start =
      (.ended (.ok v), m₂)) :
    Reaches who m loop m₂ (rest.advance v)

/-- The driver that is answered from outside goes on with the end of an advance. -/
theorem World.carryOut_answeredBy {σ : Type} (respond : Responder σ) (w : World) (r : Run)
    (state : σ) :
    w.carryOut (r.answeredBy respond state) =
      (w.settle r).2.carryOut ((w.settle r).1.run.answeredBy respond state) := by
  induction r using Run.induct generalizing w with
  | act a next ih => exact ih _ _
  | suspended | completed | failed => rfl

theorem Machine.follow_awaited (who : Party) (m : Machine) (r : Run) :
    m.follow who r.awaited =
      ({ m with world := (m.world.settle r).2 } : Machine).follow who
        (m.world.settle r).1.run.awaited := by
  induction r using Run.induct generalizing m with
  | act a next ih => exact ih _ _
  | suspended | completed | failed => rfl

theorem Responder.Reaches.carryOut_eq {σ : Type} {respond : Responder σ} {w w' : World}
    {r r' : Run} {state state' : σ} (h : Responder.Reaches respond w r state w' r' state') :
    w.carryOut (r.answeredBy respond state) = w'.carryOut (r'.answeredBy respond state') := by
  induction h with
  | here w r state => rfl
  | @answered w w₁ w₂ w' r r' state state₁ state' command rest v hyield hanswer _ ih =>
    rw [World.carryOut_answeredBy, hyield]
    show w₁.carryOut ((respond state command).bind _) = _
    rw [World.carryOut_bind, hanswer, ← ih]
    exact congrArg w₂.carryOut (rest.answeredBy_eq respond state₁ v)

/-- What is left of the poll is to follow the process from this advance on. -/
theorem Loop.Reaches.poll_eq {who : Party} {m m' : Machine} {loop : Loop} {r : Run}
    (h : Loop.Reaches who m loop m' r) :
    loop.task.poll who m = (m'.follow who r.awaited).map Progress.task id := by
  induction h with
  | start p =>
    show (m.follow who (p.awaited .null)).map Progress.task id = _
    rw [Process.awaited_eq]
    rfl
  | @resumed m₁ n r rest v hended =>
    show (m.resume who (r.andThen rest.held (Loop.resumed rest))).map Progress.task id = _
    rw [Machine.resume_andThen, hended, ← Process.awaited_eq]
    rfl
  | @again m₁ m₂ loop r pending rest w v _ hyield hended ih =>
    rw [ih, Machine.follow_awaited, hyield]
    have hwaiting : (Run.suspended .wait (.future pending) rest).awaited =
        .reporting .debug "awaiting pending operation" [] fun _ =>
          pending.start.andThen rest.held (Loop.resumed rest) := rfl
    show (Machine.follow _ who (Run.suspended .wait (.future pending) rest).awaited).map _ id = _
    rw [hwaiting, Machine.follow_reporting, Machine.follow_andThen, hended, ← Process.awaited_eq]
    rfl

/-! ## Failures -/

/-- **A failure comes out unchanged.** Let an advance come to a moment at which some piece of code
is in focus, at any depth and in any context of sequences, maps, folds, scopes, layers and handlers
at work, and let this piece fail. Then the whole advance fails with the very failure. Nothing of the
context runs any more; all that changes in the world is that the context gives up claims. The
drivers return the failure as it is, be it the synchronous driver, the one that is answered from
outside, at any of its advances, or the bridge, at any advance in any of its polls. -/
theorem failure_propagates {w w' w₁ : World} {r focus : Run} {context : Context}
    {failure : Failure} {rest : Process} (hreaches : World.Reaches w r w' context focus)
    (hfailed : w'.settle focus = (.failed failure rest, w₁)) :
    let claims := (context.abandon rest).1
    let left := (context.abandon rest).2
    w.settle r = (.failed failure left, w₁.release claims) ∧
    (∀ p : Process, p.start = r →
      w.carryOut p.drive = (.error failure, w₁.release (claims ++ left.held))) ∧
    (∀ (σ : Type) (respond : Responder σ) (p : Process) (w₀ : World) (state₀ state : σ),
      Responder.Reaches respond w₀ p.start state₀ w r state →
      w₀.carryOut (p.driveWith respond state₀) =
        ((.error failure, state), w₁.release (claims ++ left.held))) ∧
    ∀ (who : Party) (m₀ m : Machine) (loop : Loop), Loop.Reaches who m₀ loop m r → m.world = w →
      loop.task.poll who m₀ =
        (.ended (.error failure), { m with world := w₁.release (claims ++ left.held) }) := by
  intro claims left
  have hsettle : w.settle r = (.failed failure left, w₁.release claims) :=
    hreaches.settle_failed hfailed
  refine ⟨hsettle, fun p hp => ?_, fun σ respond p w₀ state₀ state hcomes => ?_,
    fun who m₀ m loop hcomes hm => ?_⟩
  · rw [Process.drive, hp, World.carryOut_drive, hsettle, World.release_append]
  · rw [Process.driveWith, Process.answeredBy_eq, World.release_append]
    refine hcomes.carryOut_eq.trans ?_
    rw [World.carryOut_answeredBy, hsettle]
    simp [Step.run, Run.answeredBy]
  · subst hm
    rw [hcomes.poll_eq, Machine.follow_awaited, hsettle, World.release_append]
    show (Machine.follow _ who
      (.releasing left.held fun _ => .settled (.error failure))).map _ id = _
    rw [Machine.follow_releasing, Machine.during, World.carryOut_release]
    rfl

/-- A fold in a capture scope, under a stack: its first step waits, and its second one asks a
handler that refuses. -/
theorem failure_propagates_of_refusal :
    let refusal : Failure := .handler "k" "refused"
    let h : Handler := ⟨.tag "k", fun _ => .aborted refusal⟩
    let step (_ item : Value) : Run := match item with
      | .null => (awaiting (.settled (.ok .null))).start
      | item => ((Process.perform (.tag "k") (.value item)).map .done).start
    let p : Process := (Stack.mk [collectLogs.toLayer, h.toLayer]).interpret
      (.scope ⟨1⟩ [] fun _ => .foldFrom [] step [.null, .str "b"] .null)
    let respond : Responder Nat := fun answers _ => .done (.ok .null, answers + 1)
    let w : World := { nextSerial := 2, openScopes := [⟨1⟩] }
    (w.carryOut (p.driveWith respond 0)).1 = (.error refusal, 1) ∧
      ((Loop.fresh p).task.poll .foreground { world := w }).1 = .ended (.error refusal) := by
  intro refusal h step p respond w
  let rest : Process := Context.process
    [.threaded collectLogs [], .handled h, .scope ⟨1⟩, .looping [] (.foldFrom [] step [.str "b"])]
    (.paused [] .ended)
  obtain ⟨w₁, hyield⟩ : ∃ w₁, w.settle p.start =
      (.suspended ⟨.wait, .future (.settled (.ok .null))⟩ rest, w₁) := ⟨_, rfl⟩
  let asking : Process := Context.process
    [.scope ⟨1⟩, .looping [] (.foldFrom [] step []), .mapped (some .done)] (.paused [] .ended)
  -- after the wait, the handler is in focus
  have hreaches (w : World) : World.Reaches w (rest.advance .null) (w.reported [h.dispatch])
      [.threaded collectLogs [], .serving h.kind (asking.handledBy h)] (.aborted refusal) :=
    have hinside : w.settle
        (Context.run [.scope ⟨1⟩, .looping [] (.foldFrom [] step [.str "b"])] (.ended .null)) =
          (.suspended ⟨h.kind, .value (.str "b")⟩ asking, w) := rfl
    have hhandler := World.Reaches.here (w.reported [h.dispatch]) (.aborted refusal)
    .inside (.threaded collectLogs [])
      (.dispatched hinside (.inside (.serving h.kind (asking.handledBy h)) hhandler))
  constructor
  · obtain ⟨-, -, hdriven, -⟩ := failure_propagates (hreaches w₁) rfl
    have hloop : Responder.Reaches respond w p.start 0 w₁ (rest.advance .null) 1 :=
      .answered hyield rfl (.here _ _ _)
    exact congrArg Prod.fst (hdriven Nat respond p w 0 1 hloop)
  · let w₂ := w₁.reported [⟨.debug, "awaiting pending operation", [], false⟩]
    obtain ⟨-, -, -, hbridged⟩ := failure_propagates (hreaches w₂) rfl
    have hloop : Loop.Reaches .foreground { world := w } (.fresh p) { world := w₂ }
        (rest.advance .null) := .again (.start _ p) hyield rfl
    exact congrArg Prod.fst (hbridged .foreground _ _ _ hloop rfl)

end Effects
