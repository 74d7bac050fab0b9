import Effects.Proofs.Exit
import Effects.Proofs.Remains

/-!
# Aborted runs

A failure ends a run for good, with one exception. `Assembled` is the set of processes that can be
put together from leaves, sequences, folds, scopes and layers. When the advance of such a process
fails, what remains is over, unless a state layer has just failed to answer a command: that layer
stays in place with the process that waits for the answer, and the next input is taken for it.

The argument goes through `Lawful`, which says of every end in a whole tree what is to be shown of
one. Every combinator is a `Frame`, and one induction shows for all of them that a frame around a
lawful process is lawful. What is left for a single frame is how it goes on after a value and how it
answers its own commands.
-/

namespace Effects

/-- The runs that a payload can start: the body of a capture scope, with some token. -/
def Payload.Enters : Payload → Run → Prop
  | .body _ enter, r => ∃ token, enter token = r
  | _, _ => False

/-- A failure has come from a state layer that could not answer a command. The layer is still in
place, around the process that waits for the answer, and so are the frames around the layer. -/
def Refused (layers : (σ : Type) → Threaded σ → Prop) (failure : Failure) (rest : Process) : Prop :=
  ∃ (context : Context) (σ : Type) (l : Threaded σ) (state left : σ) (payload : Payload)
    (asking : Process), (∀ frame ∈ context, frame.Keeps) ∧ layers σ l ∧
      (l.answer state payload).CanReturn (.error failure, left) ∧
      rest = Context.process context (asking.threadedBy l left)

section

variable (layers : (σ : Type) → Threaded σ → Prop)

mutual

/-- However the process is advanced, it is over once it has ended, unless it was refused. -/
def Process.Lawful : Process → Prop
  | .spent _ => True
  | .paused _ resume => ∀ v, (resume v).Lawful

/-- What remains at the end of the advance is over, unless it was refused. The same holds for the
advances after it, and for the bodies in the commands on the way. -/
def Run.Lawful : Run → Prop
  | .act _ next => ∀ answer, (next answer).Lawful
  | .suspended _ payload rest => payload.Lawful ∧ rest.Lawful
  | .completed _ rest => rest.Over
  | .failed failure rest => rest.Over ∨ Refused layers failure rest ∧ rest.Lawful

/-- The body in a payload is lawful. -/
def Payload.Lawful : Payload → Prop
  | .body _ enter => ∀ token, (enter token).Lawful
  | _ => True

end

end

variable {layers : (σ : Type) → Threaded σ → Prop}

theorem Process.Lawful.advance {p : Process} (hp : p.Lawful layers) (v : Value) :
    (p.advance v).Lawful layers := by
  cases p with
  | spent held => exact .inl (Process.over_spent held)
  | paused held resume => exact hp v

theorem Payload.lawful_iff {payload : Payload} :
    payload.Lawful layers ↔ ∀ r, payload.Enters r → r.Lawful layers := by
  cases payload with
  | body held enter => exact ⟨fun h r ⟨token, hr⟩ => hr ▸ h token, fun h token => h _ ⟨token, rfl⟩⟩
  | _ => exact ⟨fun _ _ h => h.elim, fun _ => trivial⟩

theorem Run.Over.lawful {r : Run} (hr : r.Over) : r.Lawful layers := by
  induction r using Run.induct with
  | act a next ih => exact fun answer => ih answer (hr.2 answer)
  | suspended => exact hr.elim
  | completed => exact hr.elim
  | failed failure rest => exact .inl hr.2

theorem Process.Over.lawful {p : Process} (hp : p.Over) : p.Lawful layers := by
  cases p with
  | spent held => trivial
  | paused held resume => exact fun v => (hp v).lawful

@[simp]
theorem Run.lawful_ended (v : Value) : (Run.ended v).Lawful layers := Process.over_spent []

@[simp]
theorem Run.lawful_aborted (failure : Failure) : (Run.aborted failure).Lawful layers :=
  .inl (Process.over_spent [])

theorem Run.lawful_releasing {claims : List Claim} {next : Unit → Run}
    (h : (next ()).Lawful layers) : (Run.releasing claims next).Lawful layers := by
  cases claims with
  | nil => exact h
  | cons claim claims => exact fun _ => h

theorem Run.lawful_ofPlan {α : Type} {plan : Plan α} {next : α → Run}
    (h : ∀ a, plan.CanReturn a → (next a).Lawful layers) :
    (Run.ofPlan plan next).Lawful layers := by
  induction plan with
  | done a => exact h a rfl
  | act a rest ih => exact fun answer => ih answer fun b hb => h b ⟨answer, hb⟩

theorem Run.lawful_reportingAll {events : List Event} {next : Run} (h : next.Lawful layers) :
    (Run.reportingAll events next).Lawful layers := by
  induction events with
  | nil => exact h
  | cons event events ih => exact fun _ => ih

theorem Refused.frame {frame : Frame} (hkeeps : frame.Keeps) {failure : Failure} {rest : Process}
    (h : Refused layers failure rest) : Refused layers failure (frame.process rest) := by
  obtain ⟨context, σ, l, state, left, payload, asking, hall, hl, hanswer, rfl⟩ := h
  refine ⟨frame :: context, σ, l, state, left, payload, asking, ?_, hl, hanswer, rfl⟩
  intro f hf
  rcases List.mem_cons.mp hf with rfl | hin
  · exact hkeeps
  · exact hall f hin

/-! ## Frames around lawful processes -/

/-- What has to be checked of the frames of a family, each of which can turn into another one of the
family while it answers commands: how they go on after a value, and how they answer their own
commands. -/
structure Frame.Sound (layers : (σ : Type) → Threaded σ → Prop) (family : Frame → Prop) : Prop where
  completed : ∀ frame, family frame → ∀ v (rest : Process), rest.Over →
    (frame.run (.completed v rest)).Lawful layers
  answered : ∀ frame, family frame → ∀ kind (payload : Payload) (rest : Process),
    ¬ frame.Admits kind → payload.Lawful layers →
    (∀ g, family g → ∀ r, payload.Enters r → (g.run r).Lawful layers) →
    (∀ g, family g → (g.process rest).Lawful layers) →
    (frame.run (.suspended kind payload rest)).Lawful layers

mutual

theorem Process.Lawful.frame {family : Frame → Prop} (hsound : Frame.Sound layers family) :
    ∀ {p : Process}, p.Lawful layers → ∀ {frame : Frame}, family frame →
      (frame.process p).Lawful layers
  | .spent held, _, frame, _ => by
    by_cases hkeeps : frame.Keeps
    · exact (Process.Over.frame hkeeps (Process.over_spent held)).lawful
    · obtain ⟨claims, hdropped⟩ := Frame.process_spent_of_not_keeps hkeeps held
      rw [hdropped]
      exact fun _ => Run.lawful_releasing (Run.lawful_aborted _)
  | .paused held resume, hp, frame, hframe => by
    obtain ⟨claims, hpaused⟩ := frame.process_paused held resume
    rw [hpaused]
    exact fun v => Run.Lawful.frame hsound (r := resume v) (hp v) hframe

theorem Run.Lawful.frame {family : Frame → Prop} (hsound : Frame.Sound layers family) :
    ∀ {r : Run}, r.Lawful layers → ∀ {frame : Frame}, family frame →
      (frame.run r).Lawful layers
  | .act a next, hr, frame, hframe => by
    rw [Frame.run_act]
    exact fun answer => Run.Lawful.frame hsound (r := next answer) (hr answer) hframe
  | .suspended kind payload rest, hr, frame, hframe => by
    have hbodies : ∀ g, family g → ∀ r, payload.Enters r → (g.run r).Lawful layers :=
      fun g hg r hin => Payload.Lawful.frame hsound payload hr.1 hg r hin
    have hrest : ∀ g, family g → (g.process rest).Lawful layers :=
      fun g hg => Process.Lawful.frame hsound (p := rest) hr.2 hg
    by_cases hadmits : frame.Admits kind
    · rw [Frame.run_suspended hadmits]
      exact Run.lawful_reportingAll ⟨hr.1, hrest frame hframe⟩
    · exact hsound.answered frame hframe kind payload rest hadmits hr.1 hbodies hrest
  | .completed v rest, hr, frame, hframe => hsound.completed frame hframe v rest hr
  | .failed failure rest, hr, frame, hframe => by
    -- a frame that stays in place becomes part of what remains; the others drop it
    by_cases hkeeps : frame.Keeps
    · rw [hkeeps.run_failed]
      rcases hr with hover | ⟨hrefused, hrest⟩
      · exact .inl (hover.frame hkeeps)
      · exact .inr ⟨hrefused.frame hkeeps, Process.Lawful.frame hsound (p := rest) hrest hframe⟩
    · obtain ⟨claims, hdropped⟩ := Frame.run_failed_of_not_keeps hkeeps failure rest
      rw [hdropped]
      exact Run.lawful_releasing (Run.lawful_aborted failure)

theorem Payload.Lawful.frame {family : Frame → Prop} (hsound : Frame.Sound layers family) :
    ∀ payload : Payload, payload.Lawful layers → ∀ {frame : Frame}, family frame →
      ∀ r, payload.Enters r → (frame.run r).Lawful layers
  | .body _ enter, hpayload, _, hframe, _, ⟨token, hr⟩ =>
    hr ▸ Run.Lawful.frame hsound (r := enter token) (hpayload token) hframe

end

/-! ## The combinators -/

/-- Of frames that answer no command only the way in which they go on after a value is to be
checked. -/
theorem Frame.Sound.of_admits {frame : Frame} (hadmits : ∀ kind, frame.Admits kind)
    (hcompleted : ∀ v (rest : Process), rest.Over → (frame.run (.completed v rest)).Lawful layers) :
    Frame.Sound layers (· = frame) where
  completed := by
    rintro _ rfl v rest hrest
    exact hcompleted v rest hrest
  answered := by
    rintro _ rfl kind payload rest hnot
    exact (hnot (hadmits kind)).elim

theorem Frame.sound_second : Frame.Sound layers (· = .second) := by
  refine .of_admits (fun _ => trivial) fun v rest _ => ?_
  show (Run.releasing rest.held fun _ => .ended v).Lawful layers
  exact Run.lawful_releasing (Run.lawful_ended v)

theorem Frame.sound_first {owned : List Claim} {next : Value → Plan Process}
    (hnext : ∀ v p, (next v).CanReturn p → p.Lawful layers) :
    Frame.Sound layers (· = .first owned next) := by
  refine .of_admits (fun _ => trivial) fun v rest _ => Run.lawful_ofPlan fun p hp => ?_
  have hsecond : p.start.dropAtEnd.Lawful layers :=
    ((hnext v p hp).advance .null).frame Frame.sound_second rfl
  exact Run.lawful_releasing hsecond

theorem Frame.sound_mapped (f : Option (Value → Plan Value)) :
    Frame.Sound layers (· = .mapped f) := by
  refine .of_admits (fun _ => trivial) fun v rest hrest => ?_
  have hkeeps : (Frame.mapped none).Keeps := trivial
  have hleft : (rest.mapOnce none).Over := hrest.frame hkeeps
  cases f with
  | some g => exact Run.lawful_ofPlan fun _ _ => hleft
  | none => exact .inl hleft

theorem Frame.sound_looping (owned : List Claim) {next : Value → Run}
    (hnext : ∀ v, (next v).Lawful layers) : Frame.Sound layers (· = .looping owned next) := by
  refine .of_admits (fun _ => trivial) fun v rest _ => ?_
  show (Run.releasing rest.held fun _ => next v).Lawful layers
  exact Run.lawful_releasing (hnext v)

theorem Frame.sound_serving (kind : Kind) {inner : Process} (hinner : inner.Lawful layers) :
    Frame.Sound layers (· = .serving kind inner) := by
  refine .of_admits (fun _ => trivial) fun v rest _ => ?_
  show (Run.releasing rest.held fun _ => inner.advance v).Lawful layers
  exact Run.lawful_releasing (hinner.advance v)

theorem Frame.sound_scope (token : Token) : Frame.Sound layers (· = .scope token) where
  completed := by
    rintro _ rfl v rest -
    show (Run.releasing (.scope token :: rest.held) fun _ => .ended v).Lawful layers
    exact Run.lawful_releasing (Run.lawful_ended v)
  answered := by
    rintro _ rfl kind payload rest hnot - - -
    obtain rfl : kind = .escape token := Decidable.not_not.mp hnot
    show ((Run.suspended (.escape token) payload rest).within token).Lawful layers
    rw [Run.within_escape]
    intro _
    apply Run.lawful_releasing
    cases payload.toValue (.escape token) with
    | ok value => exact Run.lawful_ended value
    | error failure => exact Run.lawful_aborted failure

/-- The layer of a handler is checked with the handler, whose runs may start the body in a payload,
and may put this same layer around it. -/
theorem Frame.sound_handled {h : Handler}
    (hh : ∀ payload : Payload, payload.Lawful layers →
      (∀ r, payload.Enters r → (r.handledBy h).Lawful layers) → (h.handle payload).Lawful layers) :
    Frame.Sound layers (· = .handled h) where
  completed := by
    rintro _ rfl v rest -
    exact Process.over_spent rest.held
  answered := by
    rintro _ rfl kind payload rest hnot hpayload hbodies hrest
    have hkind : kind = h.kind := Decidable.not_not.mp hnot
    have hanswer := hh payload hpayload (hbodies _ rfl)
    show ((Run.suspended kind payload rest).handledBy h).Lawful layers
    rw [Run.handledBy, if_pos hkind]
    exact fun _ => hanswer.frame (Frame.sound_serving h.kind (hrest _ rfl)) rfl

/-- A state layer is checked in all its states at once, since each answer can lead to another. -/
theorem Frame.sound_threaded {σ : Type} {l : Threaded σ} (hl : layers σ l) :
    Frame.Sound layers fun frame => ∃ state, frame = .threaded l state where
  completed := by
    rintro _ ⟨state, rfl⟩ v rest -
    exact Run.lawful_ofPlan fun _ _ => Process.over_spent rest.held
  answered := by
    rintro _ ⟨state, rfl⟩ kind payload rest hnot - - hrest
    have hkind : kind = l.kind := Decidable.not_not.mp hnot
    show ((Run.suspended kind payload rest).threadedBy l state).Lawful layers
    rw [Run.threadedBy, if_pos hkind]
    refine fun _ => Run.lawful_ofPlan fun answered hanswer => ?_
    obtain ⟨outcome, left⟩ := answered
    cases outcome with
    | ok value => exact (hrest _ ⟨left, rfl⟩).advance value
    | error failure =>
      exact .inr ⟨⟨[], σ, l, state, left, payload, rest, by simp, hl, hanswer, rfl⟩,
        hrest _ ⟨left, rfl⟩⟩

theorem lawful_foldFrom (owned : List Claim) {f : Value → Value → Run}
    (hf : ∀ acc item, (f acc item).Lawful layers) (items : List Value) (acc : Value) :
    (Run.foldFrom owned f items acc).Lawful layers := by
  induction items generalizing acc with
  | nil => exact Process.over_spent owned
  | cons item items ih =>
    have hlooping : Frame.Sound layers (· = .looping owned (Run.foldFrom owned f items)) :=
      Frame.sound_looping owned ih
    exact (hf acc item).frame hlooping rfl

/-! ## Assembled processes -/

section

variable (layers : (σ : Type) → Threaded σ → Prop)

mutual

/-- The processes that are put together from leaves, sequences, folds, scopes and layers, with the
given state layers. Among their parts may be runs that satisfy `given`: the handler of a layer is
put together like everything else, but it may start the body that it finds in a payload, as it is
or once more inside its own layer. -/
inductive Assembled : (given : Run → Prop) → Process → Prop where
  | pure {given} (v : Value) : Assembled given (.pure v)
  | fail {given} (failure : Failure) : Assembled given (.fail failure)
  | perform {given} (kind : Kind) {payload : Payload}
    (hbody : ∀ r, payload.Enters r → Built given r) : Assembled given (.perform kind payload)
  | lazy {given} {build : Unit → Run} (hbuild : Built given (build ())) :
    Assembled given (.lazy build)
  | sequence {given} {p : Process} (owned : List Claim) {next : Value → Plan Process}
    (hp : Assembled given p) (hnext : ∀ v q, (next v).CanReturn q → Assembled given q) :
    Assembled given (p.andThenHolding owned next)
  | map {given} {p : Process} (f : Value → Plan Value) (hp : Assembled given p) :
    Assembled given (p.map f)
  | fold {given} (owned : List Claim) (items : List Value) (init : Value) {f : Value → Value → Run}
    (hf : ∀ acc item, Built given (f acc item)) :
    Assembled given (.foldHolding owned items init f)
  | scope {given} (token : Token) (held : List Claim) {enter : Token → Run}
    (hbody : Built given (enter token)) : Assembled given (.scope token held enter)
  | handled {given} {p : Process} {h : Handler} (hp : Assembled given p)
    (hh : ∀ payload : Payload, Built
      (fun r => given r ∨ payload.Enters r ∨ ∃ body, payload.Enters body ∧ body.handledBy h = r)
      (h.handle payload)) :
    Assembled given (p.handledBy h)
  | threaded {given} {p : Process} {σ : Type} {l : Threaded σ} (hl : layers σ l)
    (hp : Assembled given p) : Assembled given (p.threadedBy l l.initial)

/-- The runs of code that acts at first, and then starts an assembled process. -/
inductive Built : (given : Run → Prop) → Run → Prop where
  | given {given} {r : Run} (hr : given r) : Built given r
  | act {given} (a : Act) {next : a.Answer → Run} (hnext : ∀ answer, Built given (next answer)) :
    Built given (.act a next)
  | start {given} {p : Process} (hp : Assembled given p) : Built given p.start

end

end

mutual

theorem Assembled.lawful {given : Run → Prop} {p : Process} :
    Assembled layers given p → (∀ r, given r → r.Lawful layers) → p.Lawful layers
  | .pure v, _ => fun _ => Run.lawful_ended v
  | .fail failure, _ => fun _ => Run.lawful_aborted failure
  | .perform _ hbody, hgiven =>
    fun _ => ⟨Payload.lawful_iff.mpr fun r hr => (hbody r hr).lawful hgiven,
      fun v => Run.lawful_ended v⟩
  | .lazy hbuild, hgiven => fun _ => hbuild.lawful hgiven
  | .sequence _ hp hnext, hgiven =>
    (hp.lawful hgiven).frame (Frame.sound_first fun v q hq => (hnext v q hq).lawful hgiven) rfl
  | .map f hp, hgiven => (hp.lawful hgiven).frame (Frame.sound_mapped (some f)) rfl
  | .fold owned items init hf, hgiven =>
    fun _ => lawful_foldFrom owned (fun acc item => (hf acc item).lawful hgiven) items init
  | .scope token _ hbody, hgiven =>
    fun _ => (hbody.lawful hgiven).frame (Frame.sound_scope token) rfl
  | .handled hp hh, hgiven => by
    -- the bodies that the handler may start are lawful because the process that yields them is
    refine (hp.lawful hgiven).frame (Frame.sound_handled fun payload hpayload hbodies => ?_) rfl
    refine (hh payload).lawful fun r hr => ?_
    rcases hr with hr | hr | ⟨body, hbody, rfl⟩
    · exact hgiven r hr
    · exact Payload.lawful_iff.mp hpayload r hr
    · exact hbodies body hbody
  | .threaded (l := l) hl hp, hgiven =>
    (hp.lawful hgiven).frame (Frame.sound_threaded hl) ⟨l.initial, rfl⟩

theorem Built.lawful {given : Run → Prop} {r : Run} :
    Built layers given r → (∀ r, given r → r.Lawful layers) → r.Lawful layers
  | .given hr, hgiven => hgiven _ hr
  | .act _ hnext, hgiven => fun answer => (hnext answer).lawful hgiven
  | .start hp, hgiven => (hp.lawful hgiven).advance .null

end

/-- A stack adds nothing to its layers. -/
theorem Assembled.interpret {given : Run → Prop} {s : Stack}
    (hlayers : ∀ layer ∈ s.layers, ∀ p, Assembled layers given p →
      Assembled layers given (layer.apply p)) {p : Process} (hp : Assembled layers given p) :
    Assembled layers given (s.interpret p) := by
  obtain ⟨stack⟩ := s
  induction stack with
  | nil => exact hp
  | cons layer stack ih =>
    exact hlayers layer List.mem_cons_self _
      (ih fun l hl => hlayers l (List.mem_cons_of_mem _ hl))

theorem Built.releasing {given : Run → Prop} {claims : List Claim} {next : Unit → Run}
    (h : Built layers given (next ())) : Built layers given (.releasing claims next) := by
  cases claims with
  | nil => exact h
  | cons claim claims => exact .act _ fun _ => h

/-- The layer for `call-cc` puts itself around each body, inside of the body's scope. -/
theorem Assembled.handledBy_captureHandler {given : Run → Prop} {p : Process}
    (hp : Assembled layers given p) : Assembled layers given (p.handledBy captureHandler) := by
  refine .handled hp fun payload => ?_
  cases payload with
  | body held enter =>
    refine .act .mint fun token => .start (.scope token held ?_)
    exact .given (.inr (.inr ⟨enter token, ⟨token, rfl⟩, Run.handledBy_captureHandler _⟩))
  | none => exact .start (.fail _)
  | value v => exact .start (.fail _)
  | future pending =>
    show Built layers _ (.releasing pending.held fun _ => .aborted _)
    exact .releasing (.start (.fail _))

/-! ## Runs of assembled processes -/

theorem Run.Lawful.settle {r : Run} (hr : r.Lawful layers) (w : World) :
    (w.settle r).1.run.Lawful layers := by
  induction r using Run.induct generalizing w with
  | act a next ih => exact ih _ (hr _) _
  | suspended | completed | failed => exact hr

theorem Step.rest_lawful {step : Step} (hstep : step.run.Lawful layers) :
    step.rest.Lawful layers := by
  cases step with
  | suspended command rest => exact hstep.2
  | completed value rest => exact Process.Over.lawful hstep
  | failed failure rest => exact hstep.elim Process.Over.lawful And.right

theorem Process.Lawful.steps {p : Process} (hp : p.Lawful layers) (w : World)
    (inputs : List Value) : ∀ step ∈ (w.steps p inputs).1, step.run.Lawful layers :=
  World.steps_invariant (Process.Lawful layers) (fun _ hp w v => (hp.advance v).settle w)
    (fun _ hstep => Step.rest_lawful hstep) inputs hp w

theorem Context.run_failed {context : Context} (hkeeps : ∀ frame ∈ context, frame.Keeps)
    (failure : Failure) (rest : Process) :
    Context.run context (.failed failure rest) =
      .failed failure (Context.process context rest) := by
  induction context with
  | nil => rfl
  | cons frame context ih =>
    show frame.run (Context.run context (.failed failure rest)) = _
    rw [ih fun f hf => hkeeps f (List.mem_cons_of_mem _ hf),
      (hkeeps frame List.mem_cons_self).run_failed]
    rfl

/-- When a state layer cannot answer a command, the advance fails, and the process that has asked
stays where it is. -/
theorem Context.settle_refused {context : Context} (hkeeps : ∀ frame ∈ context, frame.Keeps)
    {σ : Type} {l : Threaded σ} {state left : σ} {payload : Payload} {failure : Failure}
    {w w' : World} (hanswer : (w.reported [l.update]).carryOut (l.answer state payload) =
      ((.error failure, left), w')) (asking : Process) :
    w.settle (Context.run context ((Run.suspended l.kind payload asking).threadedBy l state)) =
      (.failed failure (Context.process context (asking.threadedBy l left)), w') := by
  have hlayer : w.settle ((Run.suspended l.kind payload asking).threadedBy l state) =
      (.failed failure (asking.threadedBy l left), w') := by
    rw [World.settle_threadedBy (World.settle_suspended w l.kind payload asking), hanswer]
    rfl
  rw [Context.settle_run, hlayer]
  show w'.settle (Context.run context (.failed failure (asking.threadedBy l left))) = _
  rw [Context.run_failed hkeeps]
  rfl

/-- A failure of an assembled process is final, whatever is advanced later: nothing but failures
after the end, and no change to the world but claims that are given up. The exception is a failure
to answer a command in one of its state layers: then the layer stays in place with the process that
has asked, and the next input resumes that process as the answer would have.

The exception is real. Whenever a state layer cannot answer a command, and all frames around the
layer stay in place, the advance fails and leaves such a process behind. -/
theorem failure_final_or_refused {p : Process} (hp : Assembled layers (fun _ => False) p)
    (w : World) (inputs : List Value) {failure : Failure} {rest : Process}
    (hfailed : .failed failure rest ∈ (w.steps p inputs).1) :
    ((∀ w' later, (∀ observed ∈ World.observe w' rest later,
          observed = .failed .alreadyCompleted) ∧
        ∃ claims, (w'.steps rest later).2 = w'.release claims) ∨
      ∃ (context : Context) (σ : Type) (l : Threaded σ) (state left : σ) (payload : Payload)
        (asking : Process), (∀ frame ∈ context, frame.Keeps) ∧ layers σ l ∧
          (l.answer state payload).CanReturn (.error failure, left) ∧
          rest = Context.process context (asking.threadedBy l left) ∧
          ∀ v, rest.advance v = Context.run context ((asking.advance v).threadedBy l left)) ∧
    ∀ (context : Context) (σ : Type) (l : Threaded σ) (state left : σ) (payload : Payload)
      (asking : Process) (refusal : Failure) (w w' : World), (∀ frame ∈ context, frame.Keeps) →
        (w.reported [l.update]).carryOut (l.answer state payload) = ((.error refusal, left), w') →
        w.settle (Context.run context
            ((Run.suspended l.kind payload asking).threadedBy l state)) =
          (.failed refusal (Context.process context (asking.threadedBy l left)), w') := by
  refine ⟨?_, fun _ _ _ _ _ _ asking _ _ _ hkeeps hanswer =>
    Context.settle_refused hkeeps hanswer asking⟩
  have hlawful : p.Lawful layers := hp.lawful fun _ h => h.elim
  rcases hlawful.steps w inputs _ hfailed with hover | ⟨hrefused, -⟩
  · exact .inl fun w' later => hover.steps w' later
  · obtain ⟨context, σ, l, state, left, payload, asking, hkeeps, hl, hanswer, rfl⟩ := hrefused
    refine .inr ⟨context, σ, l, state, left, payload, asking, hkeeps, hl, hanswer, rfl, ?_⟩
    intro v
    rw [Context.advance_process, Process.advance_threadedBy]

/-- Without state layers every failure is final, as here: a captured body asks a handler, and the
handler fails. -/
theorem failure_of_handler_final :
    let audit : Handler := ⟨.tag "k", fun _ => (Process.fail (.handler "k" "no")).start⟩
    let p := (Stack.mk [audit.toLayer, captureHandler.toLayer]).interpret
      (callCCCommand fun _ => (Process.perform (.tag "k") .none).start)
    Assembled (fun _ _ => False) (fun _ => False) p ∧
      ∃ rest, .failed (.handler "k" "no") rest ∈ (World.steps {} p [.null]).1 ∧
        ∀ w later, ∀ observed ∈ World.observe w rest later,
          observed = .failed .alreadyCompleted := by
  intro audit p
  have hp : Assembled (fun _ _ => False) (fun _ => False) p := by
    apply Assembled.interpret
    · simp only [List.forall_mem_cons]
      exact ⟨fun q hq => .handled hq fun _ => .start (.fail _),
        fun q hq => hq.handledBy_captureHandler, by simp⟩
    · refine .perform _ ?_
      rintro _ ⟨token, rfl⟩
      exact .start (.perform _ fun _ h => h.elim)
  have hfailed : ∃ rest, .failed (.handler "k" "no") rest ∈ (World.steps {} p [.null]).1 :=
    ⟨_, List.mem_cons_self⟩
  obtain ⟨rest, hrest⟩ := hfailed
  obtain ⟨hfinal | ⟨_, _, _, _, _, _, _, -, hl, -⟩, -⟩ :=
    failure_final_or_refused hp {} [.null] hrest
  · exact ⟨hp, rest, hrest, fun w later => (hfinal w later).1⟩
  · exact hl.elim

/-- A failure of a state layer is not final: advanced once more, the process goes on behind the
command that has failed, and completes. -/
theorem refusal_not_final :
    let counter : Threaded Unit :=
      .computing (.tag "k") () (fun _ _ => (.error (.handler "k" "no"), ())) fun _ v => v
    let p := ((Process.perform (.tag "k") .none).andThen fun x => .done (.pure x)).threadedBy
      counter counter.initial
    Assembled (fun _ _ => True) (fun _ => False) p ∧
      World.observe {} p [.null, .str "again"] =
        [.failed (.handler "k" "no"), .completed (.str "again")] :=
  ⟨.threaded trivial
    (.sequence [] (.perform _ fun _ h => h.elim) (by rintro x _ rfl; exact .pure x)), rfl⟩

end Effects
