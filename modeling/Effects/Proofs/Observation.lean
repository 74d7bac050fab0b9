import Effects.Proofs.Advance
import Effects.World

/-!
# What an advance shows

Whoever advances a process sees, for each input, one of three things: a command, the value, or the
failure. `World.steps` advances a process with a list of inputs, one after the other and whatever
the earlier ones have shown, and `World.observe` keeps what was seen.

Layers report what they do as trace events. Reports are no part of what a process does to its
surroundings: `World.quiet` forgets them, but keeps the events that are log entries.
-/

namespace Effects

/-- What an advance shows. -/
inductive Observed where
  /-- It paused at a command. -/
  | suspended (command : Command)
  /-- It ended with a value. -/
  | completed (value : Value)
  /-- It ended with a failure. -/
  | failed (failure : Failure)

/-- What a step shows, without what remains of the process. -/
def Step.observed : Step → Observed
  | suspended command _ => .suspended command
  | completed value _ => .completed value
  | failed failure _ => .failed failure

/-- The number of tokens that an act mints. -/
def Act.mints : Act → Nat
  | .mint => 1
  | _ => 0

namespace World

/-- Advances a process with one input after the other: the steps, and the world afterwards. -/
def steps (w : World) (p : Process) : List Value → List Step × World
  | [] => ([], w)
  | v :: inputs =>
    let (step, w) := w.settle (p.advance v)
    let (later, w) := w.steps step.rest inputs
    (step :: later, w)

/-- What is seen while a process is advanced with one input after the other. -/
def observe (w : World) (p : Process) (inputs : List Value) : List Observed :=
  (w.steps p inputs).1.map Step.observed

@[simp]
theorem steps_nil (w : World) (p : Process) : w.steps p [] = ([], w) := rfl

theorem steps_cons (w : World) (p : Process) (v : Value) (inputs : List Value) :
    w.steps p (v :: inputs) =
      ((w.settle (p.advance v)).1 ::
          ((w.settle (p.advance v)).2.steps (w.settle (p.advance v)).1.rest inputs).1,
        ((w.settle (p.advance v)).2.steps (w.settle (p.advance v)).1.rest inputs).2) := rfl

@[simp]
theorem observe_nil (w : World) (p : Process) : w.observe p [] = [] := rfl

theorem observe_cons (w : World) (p : Process) (v : Value) (inputs : List Value) :
    w.observe p (v :: inputs) =
      (w.settle (p.advance v)).1.observed ::
        (w.settle (p.advance v)).2.observe (w.settle (p.advance v)).1.rest inputs := rfl

/-- If an invariant of the process gives a property of the next step, and the step gives the
invariant back, then every step has the property. -/
theorem steps_invariant (Inv : Process → Prop) {P : Step → Prop}
    (hadvance : ∀ p, Inv p → ∀ (w : World) v, P (w.settle (p.advance v)).1)
    (hrest : ∀ step, P step → Inv step.rest) (inputs : List Value) {p : Process} (hp : Inv p)
    (w : World) : ∀ step ∈ (w.steps p inputs).1, P step := by
  induction inputs generalizing p w with
  | nil => simp
  | cons v inputs ih =>
    have hfirst := hadvance p hp w v
    rw [steps_cons]
    intro step hstep
    rcases List.mem_cons.mp hstep with rfl | hlater
    · exact hfirst
    · exact ih (hrest _ hfirst) _ step hlater

/-! ## Settling -/

@[simp]
theorem settle_act (w : World) (a : Act) (next : a.Answer → Run) :
    w.settle (.act a next) = (w.perform a).2.settle (next (w.perform a).1) := rfl

@[simp]
theorem settle_suspended (w : World) (kind : Kind) (payload : Payload) (rest : Process) :
    w.settle (.suspended kind payload rest) = (.suspended ⟨kind, payload⟩ rest, w) := rfl

@[simp]
theorem settle_completed (w : World) (value : Value) (rest : Process) :
    w.settle (.completed value rest) = (.completed value rest, w) := rfl

@[simp]
theorem settle_failed (w : World) (failure : Failure) (rest : Process) :
    w.settle (.failed failure rest) = (.failed failure rest, w) := rfl

@[simp]
theorem release_nil (w : World) : w.release [] = w := rfl

theorem release_append (w : World) (claims more : List Claim) :
    w.release (claims ++ more) = (w.release claims).release more := by
  simp [release, List.foldl_append]

/-- What giving up one claim leaves alone, giving up several leaves alone. -/
theorem release_preserves {α : Type} (f : World → α) {claims : List Claim}
    (hone : ∀ claim ∈ claims, ∀ w : World, f (w.releaseOne claim) = f w) (w : World) :
    f (w.release claims) = f w := by
  induction claims generalizing w with
  | nil => rfl
  | cons claim claims ih =>
    have hlater := ih (fun c hc => hone c (List.mem_cons_of_mem _ hc)) (w.releaseOne claim)
    exact hlater.trans (hone claim List.mem_cons_self w)

@[simp]
theorem settle_releasing (w : World) (claims : List Claim) (next : Unit → Run) :
    w.settle (.releasing claims next) = (w.release claims).settle (next ()) := by
  cases claims <;> rfl

@[simp]
theorem carryOut_done {α : Type} (w : World) (a : α) : w.carryOut (.done a) = (a, w) := rfl

@[simp]
theorem carryOut_act {α : Type} (w : World) (a : Act) (next : a.Answer → Plan α) :
    w.carryOut (.act a next) = (w.perform a).2.carryOut (next (w.perform a).1) := rfl

@[simp]
theorem carryOut_bind {α β : Type} (w : World) (plan : Plan α) (f : α → Plan β) :
    w.carryOut (plan.bind f) = (w.carryOut plan).2.carryOut (f (w.carryOut plan).1) := by
  induction plan generalizing w with
  | done a => rfl
  | act a next ih => exact ih _ _

@[simp]
theorem carryOut_release (w : World) (claims : List Claim) :
    w.carryOut (Plan.release claims) = ((), w.release claims) := by
  cases claims <;> rfl

theorem settle_ofPlan {α : Type} (w : World) (plan : Plan α) (next : α → Run) :
    w.settle (.ofPlan plan next) = (w.carryOut plan).2.settle (next (w.carryOut plan).1) := by
  induction plan generalizing w with
  | done a => rfl
  | act a rest ih => exact ih _ _

/-- A world after some events have been reported. -/
def reported (w : World) (events : List Event) : World :=
  { w with events := w.events ++ events.toArray }

@[simp]
theorem reported_nil (w : World) : w.reported [] = w := by
  simp [reported]

theorem reported_append (w : World) (events more : List Event) :
    w.reported (events ++ more) = (w.reported events).reported more := by
  simp [reported]

@[simp]
theorem settle_reporting (w : World) (level : Level) (message : String)
    (fields : List (String × String)) (next : Unit → Run) :
    w.settle (.reporting level message fields next) =
      (w.reported [⟨level, message, fields, false⟩]).settle (next ()) := by
  rfl

/-! ## Serials -/

theorem nextSerial_release (w : World) (claims : List Claim) :
    (w.release claims).nextSerial = w.nextSerial := by
  refine release_preserves (·.nextSerial) (fun claim _ w => ?_) w
  cases claim with
  | scope token => rfl
  | receiver channel =>
    simp only [releaseOne]
    split <;> rfl

theorem nextSerial_perform (w : World) (a : Act) :
    (w.perform a).2.nextSerial = w.nextSerial + a.mints := by
  cases a with
  | release claims => exact w.nextSerial_release claims
  | attempt store request =>
    simp only [perform]
    cases w.stores.lookup store <;> rfl
  | _ => rfl

theorem nextSerial_le_perform (w : World) (a : Act) :
    w.nextSerial ≤ (w.perform a).2.nextSerial := by
  rw [nextSerial_perform]
  exact Nat.le_add_right _ _

theorem nextSerial_le_carryOut {α : Type} (w : World) (plan : Plan α) :
    w.nextSerial ≤ (w.carryOut plan).2.nextSerial := by
  induction plan generalizing w with
  | done a => exact Nat.le_refl _
  | act a next ih => exact Nat.le_trans (w.nextSerial_le_perform a) (ih _ _)

theorem nextSerial_le_settle (w : World) (r : Run) :
    w.nextSerial ≤ (w.settle r).2.nextSerial := by
  induction r using Run.induct generalizing w with
  | act a next ih => exact Nat.le_trans (w.nextSerial_le_perform a) (ih _ _)
  | suspended | completed | failed => exact Nat.le_refl _

/-! ## Worlds without reports -/

/-- A world whose reports have been forgotten. -/
def quiet (w : World) : World :=
  { w with events := (w.events.toList.filter fun e => e.isLog).toArray }

theorem quiet_reported (w : World) {events : List Event} (h : ∀ e ∈ events, e.isLog = false) :
    (w.reported events).quiet = w.quiet := by
  have hnone : events.filter (fun e => e.isLog) = [] := by
    rw [List.filter_eq_nil_iff]
    exact fun e he => by simp [h e he]
  simp [quiet, reported, hnone]

/-- Two worlds that differ in their reports only. -/
theorem eq_of_quiet_eq {w w' : World} (h : w.quiet = w'.quiet) :
    ∃ events, w' = { w with events := events } ∧
      events.toList.filter (fun e => e.isLog) = w.events.toList.filter fun e => e.isLog := by
  obtain ⟨⟩ := w
  obtain ⟨⟩ := w'
  simp only [quiet, World.mk.injEq] at h
  obtain ⟨rfl, rfl, rfl, rfl, he, rfl, rfl, rfl, rfl⟩ := h
  exact ⟨_, rfl, by simpa using he.symm⟩

theorem release_events (w : World) (events : Array Event) (claims : List Claim) :
    ({ w with events := events } : World).release claims =
      { w.release claims with events := events } := by
  induction claims generalizing w with
  | nil => rfl
  | cons claim claims ih =>
    have hone : ({ w with events := events } : World).releaseOne claim =
        { w.releaseOne claim with events := events } := by
      cases claim with
      | scope token => rfl
      | receiver channel =>
        simp only [releaseOne, channelState]
        split <;> rfl
    simp only [release, List.foldl_cons] at ih ⊢
    rw [hone]
    exact ih (w.releaseOne claim)

theorem events_release (w : World) (claims : List Claim) :
    (w.release claims).events = w.events := by
  have h : w.release claims = { w.release claims with events := w.events } :=
    release_events w w.events claims
  rw [h]

/-- What an act answers and does does not depend on what has been reported. -/
theorem quiet_perform {w w' : World} (h : w.quiet = w'.quiet) (a : Act) :
    (w.perform a).1 = (w'.perform a).1 ∧ (w.perform a).2.quiet = (w'.perform a).2.quiet := by
  obtain ⟨events, rfl, he⟩ := eq_of_quiet_eq h
  cases a with
  | attempt store request =>
    simp only [perform]
    cases w.stores.lookup store <;> exact ⟨rfl, by simp [quiet, he]⟩
  | release claims =>
    refine ⟨rfl, ?_⟩
    simp only [perform, release_events, quiet, events_release, he]
  | _ => exact ⟨rfl, by simp [perform, quiet, he]⟩

theorem quiet_carryOut {α : Type} {w w' : World} (h : w.quiet = w'.quiet) (plan : Plan α) :
    (w.carryOut plan).1 = (w'.carryOut plan).1 ∧
      (w.carryOut plan).2.quiet = (w'.carryOut plan).2.quiet := by
  induction plan generalizing w w' with
  | done a => exact ⟨rfl, h⟩
  | act a next ih =>
    obtain ⟨hanswer, hafter⟩ := quiet_perform h a
    rw [carryOut_act, carryOut_act, hanswer]
    exact ih _ hafter

end World

end Effects
