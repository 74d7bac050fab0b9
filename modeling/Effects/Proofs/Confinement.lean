import Effects.Proofs.Exit
import Effects.Proofs.Remains

/-!
# Confined processes

A process is confined if the commands that it yields are of an expected sort, whatever it is
advanced with, and whatever has become of the world by then. What others may do to the world between
two advances is an `Evolution`; a process that is confined keeps to it as well, so those who wait
for the process can rely on it in turn. The evolution that allows everything is one of them.

Frames change what is expected: a scope takes away its own escape, and a layer the commands that it
answers. `Process.Confined.frame` is the one induction for all frames. For a single frame there is
left to check how it goes on after a value and how it answers its own commands.
-/

namespace Effects

/-- What may happen to the world. Whatever else is allowed, layers may report what they do, and
claims may be given up. -/
structure Evolution where
  /-- The second world may come after the first one. -/
  allows : World → World → Prop
  refl : ∀ w, allows w w
  trans : ∀ {w w' w''}, allows w w' → allows w' w'' → allows w w''
  reported : ∀ w events, allows w (World.reported w events)
  released : ∀ w claims, allows w (World.release w claims)

/-- Everything may happen. -/
def Evolution.free : Evolution :=
  ⟨fun _ _ => True, fun _ => trivial, fun _ _ => trivial, fun _ _ => trivial, fun _ _ => trivial⟩

section

variable (evolution : Evolution)

mutual

/-- Whatever the process is advanced with, in whatever world may come after `w`, it yields expected
commands only. -/
def Process.Confined (expected : Command → Prop) : Process → World → Prop
  | .spent _, _ => True
  | .paused _ resume, w =>
    ∀ later, evolution.allows w later → ∀ v, (resume v).Confined expected later

/-- The advance changes the world as it may be changed and yields expected commands only, and so do
the advances after it. -/
def Run.Confined (expected : Command → Prop) : Run → World → Prop
  | .act a next, w =>
    evolution.allows w (w.perform a).2 ∧
      (next (w.perform a).1).Confined expected (w.perform a).2
  | .suspended kind payload rest, w => expected ⟨kind, payload⟩ ∧ rest.Confined expected w
  | .completed _ rest, w => rest.Confined expected w
  | .failed _ rest, w => rest.Confined expected w

end

/-- The plan changes the world as it may be changed, and its result is what `ends` requires in the
world at its end. -/
def Plan.Confined {α : Type} (ends : α → World → Prop) : Plan α → World → Prop
  | .done a, w => ends a w
  | .act a next, w =>
    evolution.allows w (w.perform a).2 ∧ (next (w.perform a).1).Confined ends (w.perform a).2

/-- The plan changes the world as it may be changed. -/
abbrev Plan.KeepsTo {α : Type} (plan : Plan α) (w : World) : Prop :=
  plan.Confined evolution (fun _ _ => True) w

end

variable {evolution : Evolution} {expected : Command → Prop}

theorem Process.confined_spent (held : List Claim) (w : World) :
    (Process.spent held).Confined evolution expected w := trivial

theorem Process.Confined.later {p : Process} {w w' : World}
    (hp : p.Confined evolution expected w) (hw : evolution.allows w w') :
    p.Confined evolution expected w' := by
  cases p with
  | spent held => trivial
  | paused held resume => exact fun later hlater => hp later (evolution.trans hw hlater)

theorem Process.Confined.advance {p : Process} {w : World}
    (hp : p.Confined evolution expected w) (v : Value) :
    (p.advance v).Confined evolution expected w := by
  cases p with
  | spent held => exact Process.confined_spent held w
  | paused held resume => exact hp w (evolution.refl w) v

theorem Run.confined_releasing {claims : List Claim} {next : Unit → Run} {w : World}
    (h : (next ()).Confined evolution expected (w.release claims)) :
    (Run.releasing claims next).Confined evolution expected w := by
  cases claims with
  | nil => exact h
  | cons claim claims => exact ⟨evolution.released w _, h⟩

/-- By the time at which a plan has ended, the world has changed as it may change. -/
theorem Run.confined_ofPlan {α : Type} {ends : α → World → Prop} {plan : Plan α} {w : World}
    (hplan : plan.Confined evolution ends w) {next : α → Run}
    (hnext : ∀ a later, evolution.allows w later → ends a later →
      (next a).Confined evolution expected later) :
    (Run.ofPlan plan next).Confined evolution expected w := by
  induction plan generalizing w with
  | done a => exact hnext a w (evolution.refl w) hplan
  | act a rest ih =>
    refine ⟨hplan.1, ih _ hplan.2 fun b later hlater => ?_⟩
    exact hnext b later (evolution.trans hplan.1 hlater)

theorem Run.confined_reportingAll {events : List Event} {next : Run} {w : World}
    (h : next.Confined evolution expected (w.reported events)) :
    (Run.reportingAll events next).Confined evolution expected w := by
  induction events generalizing w with
  | nil =>
    rw [World.reported_nil] at h
    exact h
  | cons event events ih =>
    rw [show event :: events = [event] ++ events from rfl, World.reported_append] at h
    exact ⟨evolution.reported w [event], ih h⟩

theorem Run.confined_ended (v : Value) (w : World) :
    (Run.ended v).Confined evolution expected w := trivial

theorem Run.confined_aborted (failure : Failure) (w : World) :
    (Run.aborted failure).Confined evolution expected w := trivial

/-! ## Frames around confined processes -/

/-- What has to be checked of a family of frames, each of which can turn into another one of the
family: it is still in the family when the world has changed, it lets unexpected commands pass only
if they are expected outside, and it goes on as expected after a value and when it answers a command
itself. The family can depend on the world, since frames keep processes that are confined there. -/
structure Frame.Confining (evolution : Evolution) (inside outside : Command → Prop)
    (family : World → Frame → Prop) : Prop where
  later : ∀ {w w' frame}, family w frame → evolution.allows w w' → family w' frame
  passed : ∀ {w frame}, family w frame → ∀ {kind payload}, frame.Admits kind →
    inside ⟨kind, payload⟩ → outside ⟨kind, payload⟩
  completed : ∀ {w frame}, family w frame → ∀ (v : Value) (rest : Process),
    (∀ other, family w other → (other.process rest).Confined evolution outside w) →
    (frame.run (.completed v rest)).Confined evolution outside w
  answered : ∀ {w frame}, family w frame → ∀ {kind payload}, ¬ frame.Admits kind →
    inside ⟨kind, payload⟩ → ∀ rest : Process,
    (∀ other w', evolution.allows w w' → family w' other →
      (other.process rest).Confined evolution outside w') →
    (frame.run (.suspended kind payload rest)).Confined evolution outside w

mutual

theorem Process.Confined.frame {inside outside : Command → Prop} {family : World → Frame → Prop}
    (hfamily : Frame.Confining evolution inside outside family) :
    ∀ {p : Process} {w : World}, p.Confined evolution inside w → ∀ {frame : Frame},
      family w frame → (frame.process p).Confined evolution outside w
  | .spent held, w, _, frame, _ => by
    by_cases hkeeps : frame.Keeps
    · obtain ⟨claims, hspent⟩ := hkeeps.process_spent held
      rw [hspent]
      exact Process.confined_spent claims w
    · obtain ⟨claims, hdropped⟩ := Frame.process_spent_of_not_keeps hkeeps held
      rw [hdropped]
      exact fun later _ _ => Run.confined_releasing (Run.confined_aborted _ _)
  | .paused held resume, w, hp, frame, hframe => by
    obtain ⟨claims, hpaused⟩ := frame.process_paused held resume
    rw [hpaused]
    exact fun later hlater v =>
      Run.Confined.frame hfamily (r := resume v) (hp later hlater v) (hfamily.later hframe hlater)

theorem Run.Confined.frame {inside outside : Command → Prop} {family : World → Frame → Prop}
    (hfamily : Frame.Confining evolution inside outside family) :
    ∀ {r : Run} {w : World}, r.Confined evolution inside w → ∀ {frame : Frame},
      family w frame → (frame.run r).Confined evolution outside w
  | .act a next, w, hr, frame, hframe => by
    rw [Frame.run_act]
    exact ⟨hr.1, Run.Confined.frame hfamily (r := next _) hr.2 (hfamily.later hframe hr.1)⟩
  | .suspended kind payload rest, w, hr, frame, hframe => by
    have hrest : ∀ other w', evolution.allows w w' → family w' other →
        (other.process rest).Confined evolution outside w' := fun other w' hw hother =>
      Process.Confined.frame hfamily (p := rest) (hr.2.later hw) hother
    by_cases hadmits : frame.Admits kind
    · rw [Frame.run_suspended hadmits]
      have hw := evolution.reported w (frame.reports kind)
      exact Run.confined_reportingAll
        ⟨hfamily.passed hframe hadmits hr.1, hrest frame _ hw (hfamily.later hframe hw)⟩
    · exact hfamily.answered hframe hadmits hr.1 rest hrest
  | .completed v rest, w, hr, frame, hframe =>
    hfamily.completed hframe v rest fun _ hother =>
      Process.Confined.frame hfamily (p := rest) hr hother
  | .failed failure rest, w, hr, frame, hframe => by
    by_cases hkeeps : frame.Keeps
    · rw [hkeeps.run_failed]
      exact Process.Confined.frame hfamily (p := rest) hr hframe
    · obtain ⟨claims, hdropped⟩ := Frame.run_failed_of_not_keeps hkeeps failure rest
      rw [hdropped]
      exact Run.confined_releasing (Run.confined_aborted _ _)

end

/-! ## Each kind of frame -/

/-- Of a single frame that answers no command, and that does not depend on the world, only the way
in which it goes on after a value is to be checked. -/
theorem Frame.Confining.of_admits {frame : Frame} (hadmits : ∀ kind, frame.Admits kind)
    (hcompleted : ∀ (w : World) (v : Value) (rest : Process),
      (frame.process rest).Confined evolution expected w →
      (frame.run (.completed v rest)).Confined evolution expected w) :
    Frame.Confining evolution expected expected fun _ other => other = frame where
  later hframe _ := hframe
  passed _ _ _ _ h := h
  completed := by
    rintro w _ rfl v rest hrest
    exact hcompleted w v rest (hrest _ rfl)
  answered := by
    rintro w _ rfl kind payload hnot
    exact (hnot (hadmits kind)).elim

theorem Frame.confining_second :
    Frame.Confining evolution expected expected fun _ other => other = .second := by
  refine .of_admits (fun _ => trivial) fun w v rest _ => ?_
  show (Run.releasing rest.held fun _ => .ended v).Confined evolution expected w
  exact Run.confined_releasing (Run.confined_ended v _)

theorem Frame.confining_first (owned : List Claim) (next : Value → Plan Process) :
    Frame.Confining evolution expected expected fun w other => other = .first owned next ∧
      ∀ later, evolution.allows w later → ∀ v,
        (next v).Confined evolution (fun p w => p.Confined evolution expected w) later where
  later hframe hw := ⟨hframe.1, fun later hlater => hframe.2 later (evolution.trans hw hlater)⟩
  passed _ _ _ _ h := h
  completed := by
    rintro w _ ⟨rfl, hnext⟩ v rest -
    refine Run.confined_ofPlan (hnext w (evolution.refl w) v) fun p later _ hp => ?_
    refine Run.confined_releasing ?_
    have hstarted := (hp.later (evolution.released later rest.held)).advance .null
    exact hstarted.frame Frame.confining_second rfl
  answered := by
    rintro w _ ⟨rfl, -⟩ kind payload hnot
    exact (hnot trivial).elim

theorem Frame.confining_mapped :
    Frame.Confining evolution expected expected fun w other => ∃ f, other = .mapped f ∧
      ∀ g, f = some g → ∀ later, evolution.allows w later → ∀ v,
        (g v).KeepsTo evolution later where
  later := by
    rintro w w' _ ⟨f, rfl, hf⟩ hw
    exact ⟨f, rfl, fun g hg later hlater => hf g hg later (evolution.trans hw hlater)⟩
  passed _ _ _ _ h := h
  completed := by
    rintro w _ ⟨f, rfl, hf⟩ v rest hrest
    have hleft : (rest.mapOnce none).Confined evolution expected w :=
      hrest _ ⟨none, rfl, fun _ h => nomatch h⟩
    cases f with
    | some g =>
      exact Run.confined_ofPlan (hf g rfl w (evolution.refl w) v)
        fun _ _ hlater _ => hleft.later hlater
    | none => exact hleft
  answered := by
    rintro w _ ⟨f, rfl, -⟩ kind payload hnot
    exact (hnot trivial).elim

theorem Frame.confining_looping (owned : List Claim) (next : Value → Run) :
    Frame.Confining evolution expected expected fun w other => other = .looping owned next ∧
      ∀ later, evolution.allows w later → ∀ v, (next v).Confined evolution expected later where
  later hframe hw := ⟨hframe.1, fun later hlater => hframe.2 later (evolution.trans hw hlater)⟩
  passed _ _ _ _ h := h
  completed := by
    rintro w _ ⟨rfl, hnext⟩ v rest -
    show (Run.releasing rest.held fun _ => next v).Confined evolution expected w
    exact Run.confined_releasing (hnext _ (evolution.released w rest.held) v)
  answered := by
    rintro w _ ⟨rfl, -⟩ kind payload hnot
    exact (hnot trivial).elim

theorem Frame.confining_serving (kind : Kind) (inner : Process) :
    Frame.Confining evolution expected expected fun w other => other = .serving kind inner ∧
      inner.Confined evolution expected w where
  later hframe hw := ⟨hframe.1, hframe.2.later hw⟩
  passed _ _ _ _ h := h
  completed := by
    rintro w _ ⟨rfl, hinner⟩ v rest -
    show (Run.releasing rest.held fun _ => inner.advance v).Confined evolution expected w
    exact Run.confined_releasing ((hinner.later (evolution.released w rest.held)).advance v)
  answered := by
    rintro w _ ⟨rfl, -⟩ kind payload hnot
    exact (hnot trivial).elim

/-- A scope takes its own escape away. -/
theorem Frame.confining_scope (token : Token) :
    Frame.Confining evolution (fun command => command.kind = .escape token ∨ expected command)
      expected fun _ other => other = .scope token where
  later hframe _ := hframe
  passed := by
    rintro w _ rfl kind payload hadmits hinside
    exact hinside.resolve_left hadmits
  completed := by
    rintro w _ rfl v rest -
    show (Run.releasing (.scope token :: rest.held) fun _ => .ended v).Confined evolution expected w
    exact Run.confined_releasing (Run.confined_ended v _)
  answered := by
    rintro w _ rfl kind payload hnot - rest -
    obtain rfl : kind = .escape token := Decidable.not_not.mp hnot
    show ((Run.suspended (.escape token) payload rest).within token).Confined evolution expected w
    rw [Run.within_escape]
    refine ⟨evolution.reported w [_], Run.confined_releasing ?_⟩
    cases payload.toValue (.escape token) with
    | ok value => exact Run.confined_ended value _
    | error failure => exact Run.confined_aborted failure _

/-- The layer of a handler takes the commands of its kind away, and yields what the handler yields.
Only payloads that can reach the handler matter. -/
theorem Frame.confining_handled (h : Handler) (reaches : Payload → Prop) :
    Frame.Confining evolution
      (fun command => if command.kind = h.kind then reaches command.payload else expected command)
      expected fun w other => other = .handled h ∧
        ∀ later, evolution.allows w later → ∀ payload, reaches payload →
          (h.handle payload).Confined evolution expected later where
  later hframe hw := ⟨hframe.1, fun later hlater => hframe.2 later (evolution.trans hw hlater)⟩
  passed := by
    rintro w _ ⟨rfl, -⟩ kind payload hadmits hinside
    simpa only [if_neg (show kind ≠ h.kind from hadmits)] using hinside
  completed := by
    rintro w _ ⟨rfl, -⟩ v rest -
    exact Process.confined_spent rest.held w
  answered := by
    rintro w _ ⟨rfl, hh⟩ kind payload hnot hinside rest hrest
    have hkind : kind = h.kind := Decidable.not_not.mp hnot
    show ((Run.suspended kind payload rest).handledBy h).Confined evolution expected w
    rw [Run.handledBy, if_pos hkind]
    rw [if_pos hkind] at hinside
    -- the handler runs in the world in which the dispatch has been reported
    have hw := evolution.reported w
      [⟨.trace, "dispatching command to handler", [("kind", h.kind.shown)], false⟩]
    have hinner := hrest (.handled h) _ hw
      ⟨rfl, fun later hlater => hh later (evolution.trans hw hlater)⟩
    exact ⟨hw, (hh _ hw payload hinside).frame (Frame.confining_serving h.kind _) ⟨rfl, hinner⟩⟩

/-- Answers and the end change the world as it may be changed. -/
def Threaded.KeepsTo {σ : Type} (l : Threaded σ) (evolution : Evolution) (w : World) : Prop :=
  ∀ later, evolution.allows w later →
    (∀ state payload, (l.answer state payload).KeepsTo evolution later) ∧
      ∀ state v, (l.finish state v).KeepsTo evolution later

theorem Threaded.KeepsTo.later {σ : Type} {l : Threaded σ} {w w' : World}
    (h : l.KeepsTo evolution w) (hw : evolution.allows w w') : l.KeepsTo evolution w' :=
  fun later hlater => h later (evolution.trans hw hlater)

/-- A state layer takes the commands of its kind away, in all its states. -/
theorem Frame.confining_threaded {σ : Type} (l : Threaded σ) :
    Frame.Confining evolution (fun command => command.kind = l.kind ∨ expected command) expected
      fun w other => (∃ state, other = .threaded l state) ∧ l.KeepsTo evolution w where
  later hframe hw := ⟨hframe.1, hframe.2.later hw⟩
  passed := by
    rintro w _ ⟨⟨state, rfl⟩, -⟩ kind payload hadmits hinside
    exact hinside.resolve_left hadmits
  completed := by
    rintro w _ ⟨⟨state, rfl⟩, hl⟩ v rest -
    exact Run.confined_ofPlan ((hl w (evolution.refl w)).2 state v)
      fun _ later _ _ => Process.confined_spent rest.held later
  answered := by
    rintro w _ ⟨⟨state, rfl⟩, hl⟩ kind payload hnot - rest hrest
    have hkind : kind = l.kind := Decidable.not_not.mp hnot
    show ((Run.suspended kind payload rest).threadedBy l state).Confined evolution expected w
    rw [Run.threadedBy, if_pos hkind]
    have hw := evolution.reported w
      [⟨.trace, "updating interpreter state", [("kind", l.kind.shown)], false⟩]
    have hanswer := (hl _ hw).1 state payload
    refine ⟨hw, Run.confined_ofPlan hanswer ?_⟩
    rintro ⟨answer, left⟩ later hlater -
    have hlater' := evolution.trans hw hlater
    have hleft := hrest (.threaded l left) later hlater' ⟨⟨left, rfl⟩, hl.later hlater'⟩
    cases answer with
    | ok value => exact hleft.advance value
    | error failure => exact hleft

theorem Run.confined_foldFrom (owned : List Claim) {f : Value → Value → Run} {w : World}
    (hf : ∀ later, evolution.allows w later → ∀ acc item,
      (f acc item).Confined evolution expected later) (items : List Value) (acc : Value) :
    (Run.foldFrom owned f items acc).Confined evolution expected w := by
  induction items generalizing acc w with
  | nil => exact Process.confined_spent owned w
  | cons item items ih =>
    refine (hf w (evolution.refl w) acc item).frame (Frame.confining_looping owned _) ⟨rfl, ?_⟩
    exact fun later hlater v =>
      ih (fun last hlast => hf last (evolution.trans hlater hlast)) v

/-! ## Runs of confined processes -/

theorem Run.Confined.settle {r : Run} {w : World} (hr : r.Confined evolution expected w) :
    evolution.allows w (w.settle r).2 ∧
      (w.settle r).1.run.Confined evolution expected (w.settle r).2 := by
  induction r using Run.induct generalizing w with
  | act a next ih =>
    obtain ⟨hlater, hend⟩ := ih _ hr.2
    exact ⟨evolution.trans hr.1 hlater, hend⟩
  | suspended | completed | failed => exact ⟨evolution.refl w, hr⟩

theorem Step.rest_confined {step : Step} {w : World}
    (hstep : step.run.Confined evolution expected w) :
    step.rest.Confined evolution expected w := by
  cases step with
  | suspended command rest => exact hstep.2
  | completed v rest => exact hstep
  | failed failure rest => exact hstep

end Effects
