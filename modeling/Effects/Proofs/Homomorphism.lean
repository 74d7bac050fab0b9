import Effects.Proofs.Alike

/-!
# A handler respects sequences

Applying a handler is a homomorphism: a process that has its value at once is left as it is, a
command of the handler's kind becomes the run of the handler, every other command stays a command,
and a sequence becomes the sequence of its parts, each of them under the handler.

The last law is the one with an argument. On one side the handler lies around the whole sequence, on
the other around the part that is running, and it may be at work in either part. Both parts are
frames that answer nothing and say nothing, and `Frame.alike_handledBy` shows for all such frames
that it makes no difference on which side of them a handler lies: one induction over the run inside,
and `Frame.alike_serving` for the time in which the handler works.
-/

namespace Effects

/-- The frame answers no command, and reports nothing when one passes it. -/
def Frame.Silent (frame : Frame) : Prop := ∀ kind, frame.Admits kind ∧ frame.reports kind = []

theorem Frame.silent_first (owned : List Claim) (next : Value → Plan Process) :
    (Frame.first owned next).Silent := fun _ => ⟨trivial, rfl⟩

theorem Frame.silent_second : Frame.second.Silent := fun _ => ⟨trivial, rfl⟩

theorem Frame.Silent.run_suspended {frame : Frame} (hsilent : frame.Silent) (kind : Kind)
    (payload : Payload) (rest : Process) :
    frame.run (.suspended kind payload rest) = .suspended kind payload (frame.process rest) := by
  obtain ⟨hadmits, hreports⟩ := hsilent kind
  rw [Frame.run_suspended hadmits, hreports]
  rfl

/-- A failure inside is the failure of the frame, which may drop what is inside. -/
theorem Frame.endsAs_failed (frame : Frame) (failure : Failure) (rest : Process) :
    (frame.run (.failed failure rest)).EndsAs (.failed failure) := by
  rw [Frame.run_failed]
  exact .releasing (.failed failure _)

theorem Run.EndsAs.handledBy {observed : Observed} {r : Run} (h : r.EndsAs observed) (g : Handler) :
    (r.handledBy g).EndsAs observed := by
  induction h with
  | completed v rest => exact .completed v _
  | failed failure rest => exact .failed failure _
  | released claims _ ih => exact .released claims ih

theorem Frame.run_reporting (frame : Frame) (level : Level) (message : String)
    (fields : List (String × String)) (next : Unit → Run) :
    frame.run (.reporting level message fields next) =
      .reporting level message fields fun _ => frame.run (next ()) :=
  frame.run_act _ _

/-- While a handler works for a process inside a silent frame, the frame may as well lie around the
handler. -/
theorem Frame.alike_serving {frame : Frame} (hsilent : frame.Silent) (kind : Kind)
    {inner inner' : Process} (hinner : ∀ v, (inner.advance v).Alike (frame.run (inner'.advance v)))
    (r : Run) : (Run.serving kind inner r).Alike (frame.run (.serving kind inner' r)) := by
  induction r using Run.induct with
  | act a next ih =>
    show Run.Alike _ (frame.run (.act a fun answer => .serving kind inner' (next answer)))
    rw [Frame.run_act]
    exact .act a ih
  | suspended asked payload rest ih =>
    show Run.Alike _ (frame.run (.reporting .trace _ _ fun _ => .suspended asked payload _))
    rw [Frame.run_reporting, hsilent.run_suspended]
    refine .reporting _ _ _ (.suspended asked payload fun v => ?_)
    rw [Process.advance_serving, Frame.advance_process, Process.advance_serving]
    exact ih v
  | completed v rest =>
    show Run.Alike _ (frame.run (.releasing rest.held fun _ => inner'.advance v))
    rw [Frame.run_releasing]
    exact .releasing rest.held (hinner v)
  | failed failure rest => exact .ended (.failed failure _) (frame.endsAs_failed failure _)

/-- A handler around a silent frame is alike to a silent frame around the handler, if they go on
alike after a value. -/
theorem Frame.alike_handledBy {frame frame' : Frame} (hsilent : frame.Silent)
    (hsilent' : frame'.Silent) {h : Handler}
    (hcompleted : ∀ v rest, Run.Alike ((frame.run (.completed v rest)).handledBy h)
      (frame'.run (.completed v (.spent rest.held))))
    (r : Run) : ((frame.run r).handledBy h).Alike (frame'.run (r.handledBy h)) := by
  induction r using Run.induct with
  | act a next ih =>
    rw [Frame.run_act]
    show Run.Alike (.act a fun answer => (frame.run (next answer)).handledBy h)
      (frame'.run (.act a fun answer => (next answer).handledBy h))
    rw [Frame.run_act]
    exact .act a ih
  | suspended kind payload rest ih =>
    have hrest : ∀ v, (((frame.process rest).handledBy h).advance v).Alike
        (frame'.run ((rest.handledBy h).advance v)) := by
      intro v
      rw [Process.advance_handledBy, Process.advance_handledBy, Frame.advance_process]
      exact ih v
    rw [hsilent.run_suspended, Run.handledBy, Run.handledBy]
    by_cases hkind : kind = h.kind
    · rw [if_pos hkind, if_pos hkind, Frame.run_reporting]
      exact .reporting _ _ _ (Frame.alike_serving hsilent' h.kind hrest (h.handle payload))
    · rw [if_neg hkind, if_neg hkind, Frame.run_reporting, hsilent'.run_suspended]
      refine .reporting _ _ _ (.suspended kind payload fun v => ?_)
      rw [Frame.advance_process]
      exact hrest v
  | completed v rest => exact hcompleted v rest
  | failed failure rest =>
    exact .ended ((frame.endsAs_failed failure rest).handledBy h) (frame'.endsAs_failed failure _)

theorem Run.handledBy_releasing (h : Handler) (claims : List Claim) (next : Unit → Run) :
    (Run.releasing claims next).handledBy h = .releasing claims fun _ => (next ()).handledBy h := by
  cases claims <;> rfl

/-! ## Sequences -/

theorem Run.alike_dropAtEnd_handledBy (h : Handler) (r : Run) :
    (r.dropAtEnd.handledBy h).Alike (r.handledBy h).dropAtEnd := by
  refine Frame.alike_handledBy Frame.silent_second Frame.silent_second (fun v rest => ?_) r
  show Run.Alike ((Run.releasing rest.held fun _ => .ended v).handledBy h)
    (.releasing rest.held fun _ => .ended v)
  rw [Run.handledBy_releasing]
  exact .releasing rest.held (.ended (.completed v _) (.completed v _))

theorem Process.alike_andThenHolding_handledBy (h : Handler) (owned : List Claim)
    (next : Value → Plan Process) (p : Process) :
    Process.Alike ((p.andThenHolding owned next).handledBy h)
      ((p.handledBy h).andThenHolding owned fun v =>
        (next v).bind fun q => .done (q.handledBy h)) := by
  intro v
  rw [Process.advance_handledBy, Process.advance_andThenHolding, Process.advance_andThenHolding,
    Process.advance_handledBy]
  refine Frame.alike_handledBy (Frame.silent_first owned next) (Frame.silent_first owned _)
    (fun v rest => ?_) _
  show Run.Alike ((Frame.handled h).run
      (.ofPlan (next v) fun q => .releasing rest.held fun _ => q.start.dropAtEnd))
    (.ofPlan ((next v).bind fun q => .done (q.handledBy h))
      fun q => .releasing rest.held fun _ => q.start.dropAtEnd)
  rw [Frame.run_ofPlan, Run.ofPlan_bind]
  refine .ofPlan (next v) fun q => ?_
  rw [Frame.run_releasing, Run.ofPlan, Process.start, Process.start, Process.advance_handledBy]
  exact .releasing rest.held (Run.alike_dropAtEnd_handledBy h q.start)

/-! ## Leaves -/

/-- The run of a handler, for which nobody waits but a process that has its value then. -/
theorem Run.alike_serving_ended (kind : Kind) {inner : Process}
    (hinner : ∀ v, (inner.advance v).EndsAs (.completed v)) (r : Run) :
    (Run.serving kind inner r).Alike r := by
  induction r using Run.induct with
  | act a next ih => exact .act a ih
  | suspended asked payload rest ih =>
    refine .reportedLeft rfl (.suspended asked payload fun v => ?_)
    rw [Process.advance_serving]
    exact ih v
  | completed v rest => exact .ended (.releasing (hinner v)) (.completed v rest)
  | failed failure rest => exact .ended (.failed failure _) (.failed failure rest)

theorem Process.alike_perform_handledBy (h : Handler) (payload : Payload) {p : Process}
    (hp : ∀ v, p.advance v = h.handle payload) :
    Process.Alike ((Process.perform h.kind payload).handledBy h) p := by
  intro v
  rw [hp, Process.advance_handledBy]
  show Run.Alike ((Run.suspended h.kind payload (.paused [] .ended)).handledBy h) _
  rw [Run.handledBy, if_pos rfl]
  have hinner : ∀ v, (((Process.paused [] Run.ended).handledBy h).advance v).EndsAs
      (.completed v) := fun v => .completed v _
  exact .reportedLeft rfl (Run.alike_serving_ended h.kind hinner _)

theorem Process.alike_perform_of_ne {h : Handler} {kind : Kind} (hkind : kind ≠ h.kind)
    (payload : Payload) :
    Process.Alike ((Process.perform kind payload).handledBy h) (.perform kind payload) := by
  intro v
  rw [Process.advance_handledBy]
  show Run.Alike ((Run.suspended kind payload (.paused [] .ended)).handledBy h)
    (.suspended kind payload (.paused [] .ended))
  rw [Run.handledBy, if_neg hkind]
  exact .reportedLeft rfl (.suspended kind payload fun v =>
    .ended (.completed v _) (.completed v _))

/-! ## The laws -/

/-- Applying a handler is a homomorphism, as far as anybody can observe up to the first end. It
leaves a value alone; it turns a command of its kind into the process that the handler starts, and
leaves every other command alone, be it an effect or an escape; and it turns a sequence into the
sequence of its parts under the handler. What the second part holds while it waits makes no
difference. -/
theorem handler_homomorphism (h : Handler) (w : World) (inputs : List Value) :
    (∀ v, Observed.upToEnd (w.observe ((Process.pure v).handledBy h) inputs) =
      Observed.upToEnd (w.observe (.pure v) inputs)) ∧
    (∀ (payload : Payload) (p : Process), (∀ v, p.advance v = h.handle payload) →
      Observed.upToEnd (w.observe ((Process.perform h.kind payload).handledBy h) inputs) =
        Observed.upToEnd (w.observe p inputs)) ∧
    (∀ (kind : Kind) (payload : Payload), kind ≠ h.kind →
      Observed.upToEnd (w.observe ((Process.perform kind payload).handledBy h) inputs) =
        Observed.upToEnd (w.observe (.perform kind payload) inputs)) ∧
    ∀ (owned : List Claim) (c : Process) (f : Value → Plan Process),
      Observed.upToEnd
          (w.observe ((c.andThenHolding owned f).handledBy h) inputs) =
        Observed.upToEnd (w.observe ((c.handledBy h).andThenHolding owned fun v =>
          (f v).bind fun p => .done (p.handledBy h)) inputs) := by
  refine ⟨fun v => ?_, fun payload p hp => ?_, fun kind payload hkind => ?_, fun owned c f => ?_⟩
  · have halike : Process.Alike ((Process.pure v).handledBy h) (.pure v) :=
      fun _ => .ended (.completed v _) (.completed v _)
    exact World.observe_alike halike rfl inputs
  · exact World.observe_alike (Process.alike_perform_handledBy h payload hp) rfl inputs
  · exact World.observe_alike (Process.alike_perform_of_ne hkind payload) rfl inputs
  · exact World.observe_alike (Process.alike_andThenHolding_handledBy h owned f c) rfl inputs

/-- A handler that asks for a log entry and answers with what that is answered with. In a sequence
of two of its commands, the second one carries the answer to the first. -/
theorem handler_homomorphism_of_logging :
    let h : Handler := ⟨.tag "k", fun payload => (Process.perform .log payload).start⟩
    let c : Process := .perform (.tag "k") (.value (.str "first"))
    let f : Value → Plan Process := fun v => .done (.perform (.tag "k") (.value v))
    let inputs : List Value := [.null, .str "a", .str "b", .null]
    (∀ v, (Process.perform .log .none).advance v = h.handle .none) ∧
      Kind.escape ⟨1⟩ ≠ h.kind ∧
      Observed.upToEnd (World.observe {} ((Process.perform (.tag "k") .none).handledBy h) inputs) =
        [.suspended ⟨.log, .none⟩, .completed (.str "a")] ∧
      Observed.upToEnd (World.observe {} ((Token.exit ⟨1⟩ .null).handledBy h) inputs) =
        [.suspended ⟨.escape ⟨1⟩, .value .null⟩, .completed (.str "a")] ∧
      Observed.upToEnd (World.observe {} ((c.andThen f).handledBy h) inputs) =
        [.suspended ⟨.log, .value (.str "first")⟩, .suspended ⟨.log, .value (.str "a")⟩,
          .completed (.str "b")] := by
  intro h c f inputs
  obtain ⟨-, hown, hother, hsequence⟩ := handler_homomorphism h {} inputs
  have hstarts : ∀ v, (Process.perform .log .none).advance v = h.handle .none := fun _ => rfl
  have hne : Kind.escape ⟨1⟩ ≠ h.kind := Kind.noConfusion
  refine ⟨hstarts, hne, ?_, ?_, ?_⟩
  · exact (hown .none _ hstarts).trans rfl
  · exact (hother (.escape ⟨1⟩) (.value .null) hne).trans rfl
  · exact (hsequence [] c f).trans rfl

end Effects
