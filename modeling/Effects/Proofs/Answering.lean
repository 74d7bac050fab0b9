import Effects.Proofs.Alike
import Effects.Proofs.Blindness
import Effects.Proofs.Propagation

/-!
# Answering inside and outside

A driver that is answered from outside can answer the commands of one kind itself, by driving the
process of a handler to its end, or from a state. A layer inside the process does the same: whoever
answers the other commands is asked the same, in the same order, and the driver returns the same.

The driver of the layered process and the driver that answers by itself are two plans, and what they
do is compared by `Plan.Alike`, which forgets the reports of the layers. A handler at work is a run
in front of the process that waits for its value; for the driver this is one drive after the other,
`Run.alike_answeredBy_serving`.
-/

namespace Effects

/-! ## Plans that are alike -/

/-- The two plans have the same result and act in the same way on the world, apart from reports. -/
def Plan.Alike {α : Type} (plan plan' : Plan α) : Prop :=
  ∀ ⦃w w' : World⦄, w.quiet = w'.quiet →
    (w.carryOut plan).1 = (w'.carryOut plan').1 ∧
      (w.carryOut plan).2.quiet = (w'.carryOut plan').2.quiet

namespace Plan

variable {α β : Type}

theorem bind_assoc {γ : Type} (plan : Plan α) (f : α → Plan β) (g : β → Plan γ) :
    (plan.bind f).bind g = plan.bind fun a => (f a).bind g := by
  induction plan with
  | done a => rfl
  | act a next ih => exact congrArg (Plan.act a) (funext ih)

theorem bind_done (plan : Plan α) : plan.bind .done = plan := by
  induction plan with
  | done a => rfl
  | act a next ih => exact congrArg (Plan.act a) (funext ih)

namespace Alike

theorem refl (plan : Plan α) : plan.Alike plan := fun _ _ hw => World.quiet_carryOut hw plan

theorem act (a : Act) {next next' : a.Answer → Plan α}
    (h : ∀ answer, (next answer).Alike (next' answer)) :
    (Plan.act a next).Alike (.act a next') := by
  intro w w' hw
  obtain ⟨hanswer, hworld⟩ := World.quiet_perform hw a
  rw [World.carryOut_act, World.carryOut_act, hanswer]
  exact h _ hworld

/-- The first plan reports an event of the machinery. -/
theorem reported {event : Event} (hevent : event.isLog = false) {next : Unit → Plan α}
    {plan : Plan α} (h : (next ()).Alike plan) : (Plan.act (.report event) next).Alike plan := by
  intro w w' hw
  have hquiet : (w.perform (.report event)).2.quiet = w.quiet := World.quiet_report w hevent
  exact h (hquiet.trans hw)

theorem bind {plan plan' : Plan α} (h : plan.Alike plan') {f f' : α → Plan β}
    (hf : ∀ a, (f a).Alike (f' a)) : (plan.bind f).Alike (plan'.bind f') := by
  intro w w' hw
  obtain ⟨hresult, hworld⟩ := h hw
  rw [World.carryOut_bind, World.carryOut_bind, hresult]
  exact hf _ hworld

theorem trans {plan plan' plan'' : Plan α} (h : plan.Alike plan') (h' : plan'.Alike plan'') :
    plan.Alike plan'' := by
  intro w w' hw
  obtain ⟨hresult, hworld⟩ := h hw
  obtain ⟨hresult', hworld'⟩ := h' (rfl : w'.quiet = w'.quiet)
  exact ⟨hresult.trans hresult', hworld.trans hworld'⟩

/-- Claims can be given up before or after a plan that never asks about scopes. -/
theorem release_comm {plan : Plan α} (hplan : plan.Blind) (claims : List Claim) (f : α → β) :
    (plan.bind fun a => (Plan.release claims).bind fun _ => .done (f a)).Alike
      ((Plan.release claims).bind fun _ => plan.bind fun a => .done (f a)) := by
  intro w w' hw
  obtain ⟨hresult, hworld⟩ :=
    refl (plan.bind fun a => (Plan.release claims).bind fun _ => .done (f a)) hw
  have hcomm := World.carryOut_release_of_blind (hplan.blindTo claims w')
  simp only [World.carryOut_bind, World.carryOut_release, World.carryOut_done] at *
  rw [hcomm]
  exact ⟨hresult, hworld⟩

/-- Claims can be given up together or in two parts. -/
theorem release_append (claims more : List Claim) (plan : Plan α) :
    ((Plan.release (claims ++ more)).bind fun _ => plan).Alike
      ((Plan.release claims).bind fun _ => (Plan.release more).bind fun _ => plan) := by
  intro w w' hw
  have hsame := refl ((Plan.release (claims ++ more)).bind fun _ => plan) hw
  simpa [World.release_append] using hsame

end Alike

end Plan

/-! ## Layers hold what the process inside holds -/

namespace Process

theorem held_handledBy (h : Handler) (p : Process) : (p.handledBy h).held = p.held := by
  cases p <;> rfl

theorem held_threadedBy {σ : Type} (l : Threaded σ) (p : Process) (state : σ) :
    (p.threadedBy l state).held = p.held := by
  cases p <;> rfl

theorem held_serving (kind : Kind) (inner p : Process) :
    (serving kind inner p).held = p.held ++ inner.held := by
  cases p <;> rfl

/-- Goes on with the answer to a command. A failure ends the process. -/
def answeredWith {σ : Type} (respond : Responder σ) (p : Process) : Outcome × σ → Plan (Outcome × σ)
  | (.ok value, state) => p.answeredBy respond state value
  | (.error failure, state) =>
    (Plan.release p.held).bind fun _ => .done (.error failure, state)

end Process

namespace Run

variable {σ : Type} (respond : Responder σ)

theorem answeredBy_suspended (kind : Kind) (payload : Payload) (rest : Process) (state : σ) :
    (Run.suspended kind payload rest).answeredBy respond state =
      (respond state ⟨kind, payload⟩).bind (rest.answeredWith respond) := by
  have hcases : ∀ answer, rest.answeredWith respond answer = match answer with
      | (.ok value, state) => rest.answeredBy respond state value
      | (.error failure, state) =>
        (Plan.release rest.held).bind fun _ => .done (.error failure, state) := by
    rintro ⟨failure | value, state⟩ <;> rfl
  rw [Run.answeredBy]
  exact congrArg _ (funext fun answer => (hcases answer).symm)

theorem answeredBy_releasing (claims : List Claim) (next : Unit → Run) (state : σ) :
    (Run.releasing claims next).answeredBy respond state =
      (Plan.release claims).bind fun _ => (next ()).answeredBy respond state := by
  cases claims <;> rfl

theorem answeredBy_ofPlan {α : Type} (plan : Plan α) (next : α → Run) (state : σ) :
    (Run.ofPlan plan next).answeredBy respond state =
      plan.bind fun a => (next a).answeredBy respond state := by
  induction plan with
  | done a => rfl
  | act a rest ih => exact congrArg (Plan.act a) (funext ih)

/-- A run in front of a process that waits for its value is driven to its end, and then the process
is. -/
theorem alike_answeredBy_serving (kind : Kind) (inner : Process) (r : Run) (state : σ) :
    ((Run.serving kind inner r).answeredBy respond state).Alike
      ((r.answeredBy respond state).bind (inner.answeredWith respond)) := by
  induction r using Run.induct generalizing state with
  | act a next ih => exact .act a fun answer => ih answer state
  | suspended asked payload rest ih =>
    refine .reported rfl ?_
    rw [answeredBy_suspended, answeredBy_suspended, Plan.bind_assoc]
    refine .bind (.refl _) ?_
    rintro ⟨failure | v, state⟩
    · rw [Process.answeredWith, Process.answeredWith, Process.held_serving, Plan.bind_assoc]
      exact .release_append _ _ _
    · rw [Process.answeredWith, Process.answeredWith, Process.answeredBy_eq,
        Process.answeredBy_eq, Process.advance_serving]
      exact ih v state
  | completed v rest =>
    rw [Run.serving, answeredBy_releasing, Run.answeredBy, Plan.bind_assoc, ← Process.answeredBy_eq]
    exact .refl _
  | failed failure rest =>
    rw [Run.serving, Run.answeredBy, Run.answeredBy, Process.held_serving, Plan.bind_assoc]
    exact .release_append _ _ _

end Run

/-! ## Handlers -/

/-- The handler that builds a process for each payload. -/
def Handler.building (kind : Kind) (build : Payload → Plan Process) : Handler :=
  ⟨kind, fun payload => (build payload).start⟩

/-- Answers the commands of one kind by driving a process that is built for the payload, with the
help of a responder; the responder answers everything else. -/
def Responder.driving {σ : Type} (respond : Responder σ) (kind : Kind)
    (build : Payload → Plan Process) : Responder σ := fun state command =>
  if command.kind = kind then
    (build command.payload).bind fun p => p.driveWith respond state
  else respond state command

theorem Plan.answeredBy_start {σ : Type} (respond : Responder σ) (plan : Plan Process) (state : σ) :
    plan.start.answeredBy respond state = plan.bind fun p => p.driveWith respond state := by
  rw [Plan.start, Run.answeredBy_ofPlan]
  exact congrArg plan.bind (funext fun p => (p.answeredBy_eq respond state .null).symm)

theorem Run.alike_answeredBy_handledBy {σ : Type} (respond : Responder σ) (kind : Kind)
    (build : Payload → Plan Process) (r : Run) (state : σ) :
    ((r.handledBy (.building kind build)).answeredBy respond state).Alike
      (r.answeredBy (respond.driving kind build) state) := by
  induction r using Run.induct generalizing state with
  | act a next ih => exact .act a fun answer => ih answer state
  | suspended asked payload rest ih =>
    have hrest : ∀ answer,
        ((rest.handledBy (.building kind build)).answeredWith respond answer).Alike
          (rest.answeredWith (respond.driving kind build) answer) := by
      rintro ⟨failure | v, state⟩
      · rw [Process.answeredWith, Process.answeredWith, Process.held_handledBy]
        exact .refl _
      · rw [Process.answeredWith, Process.answeredWith, Process.answeredBy_eq,
          Process.answeredBy_eq, Process.advance_handledBy]
        exact ih v state
    rw [Run.answeredBy_suspended, Responder.driving]
    by_cases hkind : asked = kind
    · have hclaimed : asked = (Handler.building kind build).kind := hkind
      rw [Run.handledBy, if_pos hclaimed, if_pos hkind, ← Plan.answeredBy_start]
      refine .reported rfl ?_
      exact .trans (Run.alike_answeredBy_serving respond kind _ _ state) (.bind (.refl _) hrest)
    · have hpassed : asked ≠ (Handler.building kind build).kind := hkind
      rw [Run.handledBy, if_neg hpassed, if_neg hkind]
      refine .reported rfl ?_
      rw [Run.answeredBy_suspended]
      exact .bind (.refl _) hrest
  | completed v rest => exact .refl _
  | failed failure rest =>
    rw [Run.handledBy, Run.answeredBy, Run.answeredBy, Process.held_handledBy]
    exact .refl _

/-! ## States -/

/-- Answers the commands of one kind as a state layer does, from a state of its own; a responder
answers everything else. -/
def Responder.threading {σ τ : Type} (respond : Responder τ) (l : Threaded σ) :
    Responder (σ × τ) := fun (own, state) command =>
  if command.kind = l.kind then
    (l.answer own command.payload).bind fun (outcome, own) => .done (outcome, own, state)
  else
    (respond state command).bind fun (outcome, state) => .done (outcome, own, state)

/-- What a state layer makes of the end of a run. -/
def Threaded.conclude {σ τ : Type} (l : Threaded σ) : Outcome × σ × τ → Plan (Outcome × τ)
  | (.ok value, own, state) => (l.finish own value).bind fun value => .done (.ok value, state)
  | (.error failure, _, state) => .done (.error failure, state)

/-- What is made of the end never asks about scopes: then it does not matter that a layer makes it
before the process inside is dropped. -/
theorem Run.alike_answeredBy_threadedBy {σ τ : Type} (respond : Responder τ) {l : Threaded σ}
    (hfinish : ∀ own value, (l.finish own value).Blind) (r : Run) (own : σ) (state : τ) :
    ((r.threadedBy l own).answeredBy respond state).Alike
      ((r.answeredBy (respond.threading l) (own, state)).bind l.conclude) := by
  induction r using Run.induct generalizing own state with
  | act a next ih => exact .act a fun answer => ih answer own state
  | suspended asked payload rest ih =>
    have hrest : ∀ (outcome : Outcome) own state,
        ((rest.threadedBy l own).answeredWith respond (outcome, state)).Alike
          ((rest.answeredWith (respond.threading l) (outcome, own, state)).bind l.conclude) := by
      rintro (failure | v) own state
      · rw [Process.answeredWith, Process.answeredWith, Process.held_threadedBy, Plan.bind_assoc]
        exact .refl _
      · rw [Process.answeredWith, Process.answeredWith, Process.answeredBy_eq,
          Process.answeredBy_eq, Process.advance_threadedBy]
        exact ih v own state
    rw [Run.answeredBy_suspended, Responder.threading, Plan.bind_assoc]
    by_cases hkind : asked = l.kind
    · rw [Run.threadedBy, if_pos hkind, if_pos hkind, Plan.bind_assoc]
      refine .reported rfl ?_
      rw [Run.answeredBy_ofPlan]
      refine .bind (.refl _) ?_
      rintro ⟨failure | v, own'⟩
      · exact hrest (.error failure) own' state
      · have hanswer := hrest (.ok v) own' state
        rw [Process.answeredWith, Process.answeredBy_eq] at hanswer
        exact hanswer
    · rw [Run.threadedBy, if_neg hkind, if_neg hkind, Plan.bind_assoc, Run.answeredBy_suspended]
      refine .bind (.refl _) ?_
      rintro ⟨outcome, state⟩
      exact hrest outcome own state
  | completed v rest =>
    rw [Run.threadedBy, Run.answeredBy_ofPlan, Run.answeredBy, Plan.bind_assoc]
    exact Plan.Alike.release_comm (hfinish own v) rest.held fun v => ((.ok v, state) : Outcome × τ)
  | failed failure rest =>
    rw [Run.threadedBy, Run.answeredBy, Run.answeredBy, Process.held_threadedBy, Plan.bind_assoc]
    exact .refl _

/-! ## What the responder is asked -/

namespace Responder

variable {σ τ : Type}

/-- Forgets part of the state of a responder. -/
def forgetting (forget : τ → σ) (result : Outcome × τ) : Plan (Outcome × σ) :=
  .done (result.1, forget result.2)

/-- A responder that does what another one does, and knows more. -/
def Extends (forget : τ → σ) (respond' : Responder τ) (respond : Responder σ) : Prop :=
  ∀ state command,
    (respond' state command).bind (forgetting forget) = respond (forget state) command

theorem extends_recording (respond : Responder σ) : Extends Prod.fst respond.recording respond := by
  intro (state, said) command
  show ((respond state command).bind _).bind _ = _
  rw [Plan.bind_assoc]
  exact Plan.bind_done _

variable {forget : τ → σ} {respond' : Responder τ} {respond : Responder σ}

theorem Extends.answeredBy (h : Extends forget respond' respond) (r : Run) (state : τ) :
    (r.answeredBy respond' state).bind (forgetting forget) =
      r.answeredBy respond (forget state) := by
  induction r using Run.induct generalizing state with
  | act a next ih => exact congrArg (Plan.act a) (funext fun answer => ih answer state)
  | suspended kind payload rest ih =>
    rw [Run.answeredBy_suspended, Run.answeredBy_suspended, ← h, Plan.bind_assoc, Plan.bind_assoc]
    refine congrArg _ (funext fun (outcome, state) => ?_)
    cases outcome with
    | error failure =>
      rw [Process.answeredWith, Plan.bind_assoc]
      rfl
    | ok v =>
      show Plan.bind (rest.answeredBy respond' state v) _ = rest.answeredBy respond (forget state) v
      rw [Process.answeredBy_eq, Process.answeredBy_eq]
      exact ih v state
  | completed | failed =>
    rw [Run.answeredBy, Plan.bind_assoc]
    rfl

theorem Extends.driveWith (h : Extends forget respond' respond) (p : Process) (state : τ) :
    (p.driveWith respond' state).bind (forgetting forget) = p.driveWith respond (forget state) := by
  rw [Process.driveWith, Process.driveWith, Process.answeredBy_eq, Process.answeredBy_eq]
  exact h.answeredBy _ state

theorem Extends.driving (h : Extends forget respond' respond) (kind : Kind)
    (build : Payload → Plan Process) :
    Extends forget (respond'.driving kind build) (respond.driving kind build) := by
  intro state command
  rw [Responder.driving, Responder.driving]
  by_cases hkind : command.kind = kind
  · rw [if_pos hkind, if_pos hkind, Plan.bind_assoc]
    exact congrArg _ (funext fun p => h.driveWith p state)
  · rw [if_neg hkind, if_neg hkind]
    exact h state command

/-- With a responder that knows more, a process is driven in the same way. -/
theorem Extends.carryOut_driveWith (h : Extends forget respond' respond) (p : Process) (state : τ)
    (w : World) :
    w.carryOut (p.driveWith respond (forget state)) =
      (((w.carryOut (p.driveWith respond' state)).1.1,
        forget (w.carryOut (p.driveWith respond' state)).1.2),
        (w.carryOut (p.driveWith respond' state)).2) := by
  rw [← h.driveWith, World.carryOut_bind]
  rfl

end Responder

/-! ## Inside and outside -/

/-- **A handler answers as the driver would.** Whether a handler answers the commands of its kind in
a layer, or the driver answers them by driving the process of the handler, with the same responder
for everything else: the outcome and the last state of the responder are the same, and so is the
world, reports aside. On both sides the responder is asked the same commands in the same order, and
gives the same answers. -/
theorem handler_answers_as_driver {σ : Type} (kind : Kind) (build : Payload → Plan Process)
    (respond : Responder σ) (c : Process) (state : σ) (w : World) :
    let layered := (Handler.building kind build).toLayer.apply c
    let inside := w.carryOut (layered.driveWith respond state)
    let outside := w.carryOut (c.driveWith (respond.driving kind build) state)
    inside.1 = outside.1 ∧ inside.2.quiet = outside.2.quiet ∧
      ∃ said : List (Command × Outcome),
        w.carryOut (layered.driveWith respond.recording (state, [])) =
          ((inside.1.1, inside.1.2, said), inside.2) ∧
        w.carryOut (c.driveWith (respond.recording.driving kind build) (state, [])) =
          ((outside.1.1, outside.1.2, said), outside.2) := by
  intro layered inside outside
  have halike : ∀ {τ : Type} (respond : Responder τ) (state : τ),
      (layered.driveWith respond state).Alike (c.driveWith (respond.driving kind build) state) := by
    intro τ respond state
    rw [Process.driveWith, Process.driveWith, Process.answeredBy_eq, Process.answeredBy_eq]
    show Plan.Alike (((c.handledBy _).advance .null).answeredBy respond state) _
    rw [Process.advance_handledBy]
    exact Run.alike_answeredBy_handledBy respond kind build _ state
  obtain ⟨hresult, hworld⟩ := halike respond state (rfl : w.quiet = w.quiet)
  obtain ⟨hrecorded, -⟩ := halike respond.recording (state, []) (rfl : w.quiet = w.quiet)
  have hextends := respond.extends_recording
  have hinside := hextends.carryOut_driveWith layered (state, []) w
  have houtside := (hextends.driving kind build).carryOut_driveWith c (state, []) w
  refine ⟨hresult, hworld, (w.carryOut (layered.driveWith respond.recording (state, []))).1.2.2,
    ?_, ?_⟩
  · show _ = ((inside.1.1, inside.1.2, _), inside.2)
    rw [show inside = _ from hinside]
  · rw [hrecorded, show outside = _ from houtside]

end Effects
