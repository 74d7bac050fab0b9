import Effects.Proofs.Homomorphism

/-!
# Layers that commute

Two layers for different kinds may trade places, if neither asks for what the other one answers
while it works. At most one of them may keep a state: two state layers would finish in another
order.

While the layers are at work the two nestings are in different states. A handler that works in the
outer layer of one nesting works in the inner layer of the other, with the other layer around it;
`KindLayer.alike_serving` says that this makes no difference, and it is here that the handler must
not ask for what the other layer answers. The rest is one induction over the process inside.

Which payloads the handlers and the answers of a state layer are given, and in which order, is
made visible by notes: a layer can be made to note each command of its kind just before it is
answered.
-/

namespace Effects

/-! ## What a process asks for -/

mutual

/-- Until it ends, the process yields allowed commands only, whatever it is advanced with and
whatever its acts answer. -/
def Process.AsksOnly (allowed : Kind → Payload → Prop) : Process → Prop
  | .spent _ => True
  | .paused _ resume => ∀ v, (resume v).AsksOnly allowed

/-- Until it ends, the run yields allowed commands only, and so do the advances after it. -/
def Run.AsksOnly (allowed : Kind → Payload → Prop) : Run → Prop
  | .act _ next => ∀ answer, (next answer).AsksOnly allowed
  | .suspended kind payload rest => allowed kind payload ∧ rest.AsksOnly allowed
  | .completed _ _ => True
  | .failed _ _ => True

end

theorem Process.AsksOnly.advance {allowed : Kind → Payload → Prop} {p : Process}
    (hp : p.AsksOnly allowed) (v : Value) : (p.advance v).AsksOnly allowed := by
  cases p with
  | spent held => trivial
  | paused held resume => exact hp v

mutual

theorem Process.AsksOnly.mono {allowed allowed' : Kind → Payload → Prop}
    (h : ∀ kind payload, allowed kind payload → allowed' kind payload) :
    ∀ {p : Process}, p.AsksOnly allowed → p.AsksOnly allowed'
  | .spent _, _ => trivial
  | .paused _ resume, hp => fun v => Run.AsksOnly.mono h (r := resume v) (hp v)

theorem Run.AsksOnly.mono {allowed allowed' : Kind → Payload → Prop}
    (h : ∀ kind payload, allowed kind payload → allowed' kind payload) :
    ∀ {r : Run}, r.AsksOnly allowed → r.AsksOnly allowed'
  | .act _ next, hr => fun answer => Run.AsksOnly.mono h (r := next answer) (hr answer)
  | .suspended kind payload rest, hr =>
    ⟨h kind payload hr.1, Process.AsksOnly.mono h (p := rest) hr.2⟩
  | .completed _ _, _ => trivial
  | .failed _ _, _ => trivial

end

mutual

/-- Where everything is allowed, nothing is required of the process. -/
theorem Process.asksOnly_of_forall {allowed : Kind → Payload → Prop}
    (h : ∀ kind payload, allowed kind payload) : ∀ p : Process, p.AsksOnly allowed
  | .spent _ => trivial
  | .paused _ resume => fun v => Run.asksOnly_of_forall h (resume v)

theorem Run.asksOnly_of_forall {allowed : Kind → Payload → Prop}
    (h : ∀ kind payload, allowed kind payload) : ∀ r : Run, r.AsksOnly allowed
  | .act _ next => fun answer => Run.asksOnly_of_forall h (next answer)
  | .suspended kind payload rest => ⟨h kind payload, Process.asksOnly_of_forall h rest⟩
  | .completed _ _ => trivial
  | .failed _ _ => trivial

end

/-! ## Notes -/

/-- Notes a text, if there is one, and goes on. -/
def Run.jotting (text? : Option String) (next : Run) : Run :=
  match text? with
  | some text => .act (.note text) fun _ => next
  | none => next

mutual

/-- Notes each command of a kind before it is yielded. -/
def Process.noting (kind : Kind) (text : Payload → Option String) : Process → Process
  | .spent held => .spent held
  | .paused held resume => .paused held fun v => (resume v).noting kind text

/-- Notes each command of a kind before it is yielded. -/
def Run.noting (kind : Kind) (text : Payload → Option String) : Run → Run
  | .act a next => .act a fun answer => (next answer).noting kind text
  | .suspended asked payload rest =>
    if asked = kind then
      .jotting (text payload) (.suspended asked payload (rest.noting kind text))
    else .suspended asked payload (rest.noting kind text)
  | .completed value rest => .completed value (rest.noting kind text)
  | .failed failure rest => .failed failure (rest.noting kind text)

end

theorem Process.advance_noting (kind : Kind) (text : Payload → Option String) (p : Process)
    (v : Value) : (p.noting kind text).advance v = (p.advance v).noting kind text := by
  cases p <;> rfl

mutual

theorem Process.noting_none (kind : Kind) : ∀ p : Process, p.noting kind (fun _ => none) = p
  | .spent _ => rfl
  | .paused held resume =>
    congrArg (Process.paused held) (funext fun v => Run.noting_none kind (resume v))

theorem Run.noting_none (kind : Kind) : ∀ r : Run, r.noting kind (fun _ => none) = r
  | .act a next => congrArg (Run.act a) (funext fun answer => Run.noting_none kind (next answer))
  | .suspended asked payload rest => by
    rw [Run.noting, Process.noting_none kind rest]
    exact ite_self _
  | .completed value rest => congrArg (Run.completed value) (Process.noting_none kind rest)
  | .failed failure rest => congrArg (Run.failed failure) (Process.noting_none kind rest)

end

theorem Run.Alike.symm {r r' : Run} (h : r.Alike r') : r'.Alike r := by
  induction h with
  | act a _ ih => exact .act a ih
  | reportedLeft hevent _ ih => exact .reportedRight hevent ih
  | reportedRight hevent _ ih => exact .reportedLeft hevent ih
  | suspended kind payload _ ih => exact .suspended kind payload ih
  | ended h h' => exact .ended h' h

theorem Run.Alike.jotting (text? : Option String) {r r' : Run} (h : r.Alike r') :
    (Run.jotting text? r).Alike (.jotting text? r') := by
  cases text? with
  | none => exact h
  | some text => exact .act (.note text) fun _ => h

theorem Run.Alike.reportedAllLeft {events : List Event} {r r' : Run}
    (hevents : ∀ event ∈ events, event.isLog = false) (h : r.Alike r') :
    (Run.reportingAll events r).Alike r' := by
  induction events with
  | nil => exact h
  | cons event events ih =>
    exact .reportedLeft (hevents event List.mem_cons_self)
      (ih fun e he => hevents e (List.mem_cons_of_mem _ he))

theorem Run.Alike.reportedAllRight {events : List Event} {r r' : Run}
    (hevents : ∀ event ∈ events, event.isLog = false) (h : r.Alike r') :
    r.Alike (.reportingAll events r') := by
  induction events with
  | nil => exact h
  | cons event events ih =>
    exact .reportedRight (hevents event List.mem_cons_self)
      (ih fun e he => hevents e (List.mem_cons_of_mem _ he))

/-! ## Layers for one kind -/

/-- A layer for one kind of commands. -/
inductive KindLayer where
  /-- The layer of a handler. -/
  | handler (h : Handler)
  /-- A state layer. -/
  | threaded {σ : Type} (l : Threaded σ)

namespace KindLayer

/-- The kind that is answered. -/
def kind : KindLayer → Kind
  | handler h => h.kind
  | threaded l => l.kind

/-- The layer itself. -/
def toLayer : KindLayer → Layer
  | handler h => h.toLayer
  | threaded l => l.toLayer

/-- The layer, which notes each command of its kind that arrives at it, just before the handler or
the answer of the state layer is given the payload. -/
def noted (text : Kind → Payload → Option String) (x : KindLayer) : Layer :=
  ⟨fun p => x.toLayer.apply (p.noting x.kind (text x.kind))⟩

/-- A command with the payload is answered without asking for anything of a kind. -/
def AnswersWithout (asked : Kind) : KindLayer → Payload → Prop
  | handler h, payload => (h.handle payload).AsksOnly fun kind _ => kind ≠ asked
  | threaded _, _ => True

/-- The frame is the layer, in one of its states. -/
def Has : KindLayer → Frame → Prop
  | handler h, frame => frame = .handled h
  | threaded l, frame => ∃ state, frame = .threaded l state

section

variable (text : Kind → Payload → Option String)

/-- The layer around a process at rest, with its notes. -/
def process (x : KindLayer) (frame : Frame) (p : Process) : Process :=
  frame.process (p.noting x.kind (text x.kind))

/-- The layer around an advance under way, with its notes. -/
def run (x : KindLayer) (frame : Frame) (r : Run) : Run :=
  frame.run (r.noting x.kind (text x.kind))

end

variable {text : Kind → Payload → Option String} {x : KindLayer} {frame : Frame}

theorem Has.admits (hframe : x.Has frame) {kind : Kind} (hkind : kind ≠ x.kind) :
    frame.Admits kind := by
  cases x with
  | handler h =>
    obtain rfl := hframe
    exact hkind
  | threaded l =>
    obtain ⟨state, rfl⟩ := hframe
    exact hkind

theorem exists_noted_eq (x : KindLayer) (text : Kind → Payload → Option String) :
    ∃ frame, x.Has frame ∧ ∀ p, (x.noted text).apply p = x.process text frame p := by
  cases x with
  | handler h => exact ⟨.handled h, rfl, fun _ => rfl⟩
  | threaded l => exact ⟨.threaded l l.initial, ⟨l.initial, rfl⟩, fun _ => rfl⟩

theorem noted_none (x : KindLayer) : x.noted (fun _ _ => none) = x.toLayer := by
  have happly : ∀ p, (x.noted fun _ _ => none).apply p = x.toLayer.apply p := fun p =>
    congrArg x.toLayer.apply (Process.noting_none x.kind p)
  exact congrArg Layer.mk (funext happly)

theorem advance_process (p : Process) (v : Value) :
    (x.process text frame p).advance v = x.run text frame (p.advance v) := by
  rw [process, Frame.advance_process, Process.advance_noting]
  rfl

theorem run_act (a : Act) (next : a.Answer → Run) :
    x.run text frame (.act a next) = .act a fun answer => x.run text frame (next answer) :=
  frame.run_act a _

theorem run_releasing (claims : List Claim) (next : Unit → Run) :
    x.run text frame (.releasing claims next) =
      .releasing claims fun _ => x.run text frame (next ()) := by
  cases claims with
  | nil => rfl
  | cons claim claims => exact run_act _ _

theorem run_ofPlan {α : Type} (plan : Plan α) (next : α → Run) :
    x.run text frame (.ofPlan plan next) = .ofPlan plan fun a => x.run text frame (next a) := by
  induction plan with
  | done a => rfl
  | act a rest ih =>
    rw [Run.ofPlan, run_act]
    exact congrArg (Run.act a) (funext ih)

theorem run_reporting (level : Level) (message : String) (fields : List (String × String))
    (next : Unit → Run) :
    x.run text frame (.reporting level message fields next) =
      .reporting level message fields fun _ => x.run text frame (next ()) :=
  run_act _ _

theorem run_jotting (text? : Option String) (next : Run) :
    x.run text frame (.jotting text? next) = .jotting text? (x.run text frame next) := by
  cases text? with
  | none => rfl
  | some note => exact run_act _ _

theorem run_reportingAll (events : List Event) (next : Run) :
    x.run text frame (.reportingAll events next) =
      .reportingAll events (x.run text frame next) := by
  induction events with
  | nil => rfl
  | cons event events ih =>
    show x.run text frame (.act (.report event) fun _ => .reportingAll events next) = _
    rw [run_act, ih]
    rfl

/-- A command of another kind passes the layer. -/
theorem run_suspended_of_ne (hframe : x.Has frame) {kind : Kind} (hkind : kind ≠ x.kind)
    (payload : Payload) (rest : Process) :
    x.run text frame (.suspended kind payload rest) =
      .reportingAll (frame.reports kind) (.suspended kind payload (x.process text frame rest)) := by
  rw [run, Run.noting, if_neg hkind, Frame.run_suspended (hframe.admits hkind)]
  rfl

/-- A command of its own kind is noted, and then the layer answers it. -/
theorem run_suspended_self (payload : Payload) (rest : Process) :
    x.run text frame (.suspended x.kind payload rest) =
      .jotting (text x.kind payload) (frame.run (.suspended x.kind payload
        (rest.noting x.kind (text x.kind)))) := by
  rw [run, Run.noting, if_pos rfl]
  cases text x.kind payload with
  | none => rfl
  | some note => exact frame.run_act _ _

/-- While a handler works that asks for nothing that a layer answers, the layer may as well lie
around the process that waits for the handler. -/
theorem alike_serving (hframe : x.Has frame) (kind : Kind) {inner inner' : Process}
    (hinner : ∀ v, (inner.advance v).Alike (x.run text frame (inner'.advance v))) {r : Run}
    (hr : r.AsksOnly fun asked _ => asked ≠ x.kind) :
    (Run.serving kind inner r).Alike (x.run text frame (.serving kind inner' r)) := by
  induction r using Run.induct with
  | act a next ih =>
    show Run.Alike _ (x.run text frame (.act a fun answer => .serving kind inner' (next answer)))
    rw [run_act]
    exact .act a fun answer => ih answer (hr answer)
  | suspended asked payload rest ih =>
    obtain ⟨hasked, hrest⟩ := hr
    show Run.Alike (.reporting .trace _ _ fun _ => .suspended asked payload _)
      (x.run text frame (.reporting .trace _ _ fun _ => .suspended asked payload _))
    rw [run_reporting, run_suspended_of_ne hframe hasked]
    refine .reporting _ _ _ ?_
    refine .reportedAllRight (fun _ => Frame.isLog_reports) ?_
    refine .suspended asked payload fun v => ?_
    rw [advance_process, Process.advance_serving, Process.advance_serving]
    exact ih v (hrest.advance v)
  | completed v rest =>
    show Run.Alike (.releasing rest.held fun _ => inner.advance v)
      (x.run text frame (.releasing rest.held fun _ => inner'.advance v))
    rw [run_releasing]
    exact .releasing rest.held (hinner v)
  | failed failure rest => exact .ended (.failed failure _) (frame.endsAs_failed failure _)

/-! ## Trading places -/

/-- A layer answers a command of its own kind in the same way under the layer of a handler, if it
asks for nothing that the handler answers, and if they go on in the same way after the answer. -/
theorem alike_answered {h : Handler} (hframe : x.Has frame) {payload : Payload}
    (hanswers : x.AnswersWithout h.kind payload) {rest rest' : Process}
    (hrest : ∀ other, x.Has other → ∀ v,
      ((handler h).run text (.handled h) (x.run text other (rest.advance v))).Alike
        (x.run text other (rest'.advance v))) :
    ((handler h).run text (.handled h) (x.run text frame (.suspended x.kind payload rest))).Alike
      (x.run text frame (.suspended x.kind payload rest')) := by
  rw [run_suspended_self, run_suspended_self, run_jotting]
  refine .jotting _ ?_
  cases x with
  | handler g =>
    obtain rfl := hframe
    have hinner : ∀ v, (((rest'.noting g.kind (text g.kind)).handledBy g).advance v).Alike
        ((handler h).run text (.handled h)
          (((rest.noting g.kind (text g.kind)).handledBy g).advance v)) := by
      intro v
      have hgoes := (hrest (.handled g) rfl v).symm
      rw [Process.advance_handledBy, Process.advance_handledBy, Process.advance_noting,
        Process.advance_noting]
      exact hgoes
    show Run.Alike ((handler h).run text (.handled h)
        ((Run.suspended g.kind payload (rest.noting g.kind (text g.kind))).handledBy g))
      ((Run.suspended g.kind payload (rest'.noting g.kind (text g.kind))).handledBy g)
    rw [Run.handledBy, Run.handledBy, if_pos rfl, if_pos rfl, run_reporting]
    refine .reporting _ _ _ ?_
    exact (alike_serving (x := handler h) rfl g.kind hinner hanswers).symm
  | threaded l =>
    obtain ⟨state, rfl⟩ := hframe
    show Run.Alike ((handler h).run text (.handled h)
        ((Run.suspended l.kind payload (rest.noting l.kind (text l.kind))).threadedBy l state))
      ((Run.suspended l.kind payload (rest'.noting l.kind (text l.kind))).threadedBy l state)
    rw [Run.threadedBy, Run.threadedBy, if_pos rfl, if_pos rfl, run_reporting, run_ofPlan]
    refine .reporting _ _ _ (.ofPlan (l.answer state payload) ?_)
    rintro ⟨failure | value, left⟩
    · exact .ended (.failed failure _) (.failed failure _)
    · have hgoes := hrest (.threaded l left) ⟨left, rfl⟩ value
      simp only [Process.advance_threadedBy, Process.advance_noting]
      exact hgoes

/-- What a process may ask for so that two layers around it can trade places: the commands that one
of them answers are answered without asking for anything that the other one answers. -/
def Independent (x y : KindLayer) (kind : Kind) (payload : Payload) : Prop :=
  (kind = x.kind → x.AnswersWithout y.kind payload) ∧
    (kind = y.kind → y.AnswersWithout x.kind payload)

theorem Independent.symm {x y : KindLayer} {kind : Kind} {payload : Payload}
    (h : x.Independent y kind payload) : y.Independent x kind payload := ⟨h.2, h.1⟩

/-- The layer of a handler trades places with a layer for another kind. -/
theorem alike_commute {h : Handler} (hne : h.kind ≠ x.kind) {r : Run}
    (hr : r.AsksOnly ((handler h).Independent x)) (hframe : x.Has frame) :
    ((handler h).run text (.handled h) (x.run text frame r)).Alike
      (x.run text frame ((handler h).run text (.handled h) r)) := by
  have hown : (handler h).Has (.handled h) := rfl
  induction r using Run.induct generalizing frame with
  | act a next ih =>
    rw [run_act, run_act, run_act, run_act]
    exact .act a fun answer => ih answer (hr answer) hframe
  | suspended kind payload rest ih =>
    obtain ⟨⟨hbyHandler, hbyLayer⟩, hlater⟩ := hr
    have hrest : ∀ other, x.Has other → ∀ v,
        ((handler h).run text (.handled h) (x.run text other (rest.advance v))).Alike
          (x.run text other ((handler h).run text (.handled h) (rest.advance v))) :=
      fun other hother v => ih v (hlater.advance v) hother
    by_cases hkind : kind = x.kind
    · -- the layer answers, and the handler is passed on one of the two sides
      subst hkind
      rw [run_suspended_of_ne hown hne.symm, run_reportingAll]
      refine .reportedAllRight (fun _ => Frame.isLog_reports) ?_
      refine alike_answered hframe (hbyLayer rfl) fun other hother v => ?_
      rw [advance_process]
      exact hrest other hother v
    · rw [run_suspended_of_ne hframe hkind, run_reportingAll]
      by_cases hhandled : kind = h.kind
      · -- the handler answers, and works with the layer outside or inside
        subst hhandled
        have hself : ∀ rest : Process, (handler h).run text (.handled h)
            (.suspended h.kind payload rest) = .jotting (text h.kind payload)
              ((Run.suspended h.kind payload (rest.noting h.kind (text h.kind))).handledBy h) :=
          run_suspended_self payload
        rw [hself, hself, run_jotting, Run.handledBy, Run.handledBy, if_pos rfl, if_pos rfl,
          run_reporting]
        refine .reportedAllLeft (fun _ => Frame.isLog_reports) ?_
        refine .jotting _ (.reporting _ _ _ ?_)
        refine alike_serving hframe h.kind (fun v => ?_) (hbyHandler rfl)
        rw [Process.advance_handledBy, Process.advance_noting, Process.advance_handledBy,
          Process.advance_noting, advance_process]
        exact hrest frame hframe v
      · rw [run_suspended_of_ne hown hhandled, run_suspended_of_ne hown hhandled, run_reportingAll,
          run_suspended_of_ne hframe hkind, ← Run.reportingAll_append, ← Run.reportingAll_append]
        refine .reportedAllLeft ?_ (.reportedAllRight ?_ (.suspended kind payload fun v => ?_))
        · exact fun event hevent => (List.mem_append.mp hevent).elim Frame.isLog_reports
            Frame.isLog_reports
        · exact fun event hevent => (List.mem_append.mp hevent).elim Frame.isLog_reports
            Frame.isLog_reports
        · rw [advance_process, advance_process, advance_process, advance_process]
          exact hrest frame hframe v
  | completed v rest =>
    cases x with
    | handler g =>
      obtain rfl := hframe
      exact .ended (.completed v _) (.completed v _)
    | threaded l =>
      obtain ⟨state, rfl⟩ := hframe
      show Run.Alike ((handler h).run text (.handled h)
          (.ofPlan (l.finish state v) fun v => .completed v _))
        (.ofPlan (l.finish state v) fun v => .completed v _)
      rw [run_ofPlan]
      exact .ofPlan _ fun v => .ended (.completed v _) (.completed v _)
  | failed failure rest =>
    cases x with
    | handler g =>
      obtain rfl := hframe
      exact .ended (.failed failure _) (.failed failure _)
    | threaded l =>
      obtain ⟨state, rfl⟩ := hframe
      exact .ended (.failed failure _) (.failed failure _)

end KindLayer

/-! ## What is seen and noted -/

namespace World

/-- What is seen of each advance up to the first end, with the notes that have been taken by then.
-/
def watch (w : World) (p : Process) : List Value → List (Observed × Array String)
  | [] => []
  | v :: inputs =>
    match w.settle (p.advance v) with
    | (.suspended command rest, w) => (.suspended command, w.notes) :: w.watch rest inputs
    | (ending, w) => [(ending.observed, w.notes)]

theorem map_fst_watch (w : World) (p : Process) (inputs : List Value) :
    (w.watch p inputs).map Prod.fst = Observed.upToEnd (w.observe p inputs) := by
  induction inputs generalizing w p with
  | nil => rfl
  | cons v inputs ih =>
    rw [watch, observe_cons]
    rcases w.settle (p.advance v) with ⟨_ | _ | _, w'⟩
    · exact congrArg (List.cons _) (ih w' _)
    · rfl
    · rfl

theorem notes_release (w : World) (claims : List Claim) : (w.release claims).notes = w.notes := by
  refine release_preserves notes (fun claim _ w => ?_) w
  cases claim with
  | scope token => rfl
  | receiver channel =>
    simp only [releaseOne]
    split <;> rfl

theorem notes_settle_endsAs {r : Run} {observed : Observed} (h : r.EndsAs observed) (w : World) :
    (w.settle r).2.notes = w.notes := by
  induction h generalizing w with
  | completed v rest => rfl
  | failed failure rest => rfl
  | released claims _ ih => exact (ih (w.release claims)).trans (notes_release w claims)

theorem notes_eq_of_quiet_eq {w w' : World} (h : w.quiet = w'.quiet) : w.notes = w'.notes := by
  have hnotes : w.quiet.notes = w'.quiet.notes := congrArg World.notes h
  exact hnotes

/-- Runs that are alike take the same notes, up to the end. -/
theorem notes_settle_alike {r r' : Run} (h : r.Alike r') {w w' : World}
    (hw : w.quiet = w'.quiet) : (w.settle r).2.notes = (w'.settle r').2.notes := by
  induction h generalizing w w' with
  | act a _ ih =>
    obtain ⟨hanswer, hworld⟩ := quiet_perform hw a
    rw [settle_act, settle_act, hanswer]
    exact ih _ hworld
  | @reportedLeft event hevent next r _ ih =>
    have hquiet : (w.perform (.report event)).2.quiet = w.quiet := quiet_report w hevent
    exact ih (hquiet.trans hw)
  | @reportedRight event hevent next r _ ih =>
    have hquiet : (w'.perform (.report event)).2.quiet = w'.quiet := quiet_report w' hevent
    exact ih (hw.trans hquiet.symm)
  | suspended kind payload _ _ => exact notes_eq_of_quiet_eq hw
  | ended h h' =>
    rw [notes_settle_endsAs h, notes_settle_endsAs h']
    exact notes_eq_of_quiet_eq hw

theorem watch_alike {p p' : Process} (h : p.Alike p') {w w' : World}
    (hw : w.quiet = w'.quiet) (inputs : List Value) : w.watch p inputs = w'.watch p' inputs := by
  induction inputs generalizing p p' w w' with
  | nil => rfl
  | cons v inputs ih =>
    have hnotes := notes_settle_alike (h v) hw
    have hstep := settle_alike (h v) hw
    rw [watch, watch]
    generalize w.settle (p.advance v) = ending, w'.settle (p'.advance v) = ending' at hnotes hstep
    cases hstep with
    | suspended command hrest hw =>
      have hlater := ih hrest hw
      simp only at hnotes ⊢
      rw [hnotes, hlater]
    | completed | failed =>
      simp only at hnotes ⊢
      rw [hnotes]
      rfl

end World

namespace KindLayer

/-- The process under two layers, the first one outside. -/
theorem alike_stack (text : Kind → Payload → Option String) {h : Handler} {x : KindLayer}
    (hne : h.kind ≠ x.kind) {c : Process} (hc : c.AsksOnly ((handler h).Independent x)) :
    Process.Alike ((Stack.mk [(handler h).noted text, x.noted text]).interpret c)
      ((Stack.mk [x.noted text, (handler h).noted text]).interpret c) := by
  obtain ⟨frame, hframe, hnoted⟩ := x.exists_noted_eq text
  have hhandler : ∀ p, ((handler h).noted text).apply p =
      (handler h).process text (.handled h) p := fun _ => rfl
  intro v
  show Run.Alike
    ((((handler h).noted text).apply ((x.noted text).apply c)).advance v)
    (((x.noted text).apply (((handler h).noted text).apply c)).advance v)
  rw [hhandler, hhandler, hnoted, hnoted, advance_process, advance_process, advance_process,
    advance_process]
  exact alike_commute hne (hc.advance v) hframe

end KindLayer

/-- Two layers for different kinds commute, if at most one of them keeps a state, and if whatever
the process asks one of them for is answered without asking for anything that the other one
answers. For layers that never ask for this, every process will do (`Process.asksOnly_of_forall`).
Whoever advances the process under the two layers sees the same with either of them outside, up to
the first end. And when the layers note what they are given, the notes are the same after every
advance, whatever it is that is noted: so the handlers, and the answers of a state layer, are given
the same payloads in the same order. -/
theorem disjoint_layers_commute (x y : KindLayer)
    (hhandler : (∃ h, x = .handler h) ∨ ∃ h, y = .handler h) (hne : x.kind ≠ y.kind) (c : Process)
    (hc : c.AsksOnly (x.Independent y)) (w : World) (inputs : List Value) :
    Observed.upToEnd (w.observe ((Stack.mk [x.toLayer, y.toLayer]).interpret c) inputs) =
        Observed.upToEnd (w.observe ((Stack.mk [y.toLayer, x.toLayer]).interpret c) inputs) ∧
      ∀ text : Kind → Payload → Option String,
        w.watch ((Stack.mk [x.noted text, y.noted text]).interpret c) inputs =
          w.watch ((Stack.mk [y.noted text, x.noted text]).interpret c) inputs := by
  have hwatch : ∀ text : Kind → Payload → Option String,
      w.watch ((Stack.mk [x.noted text, y.noted text]).interpret c) inputs =
        w.watch ((Stack.mk [y.noted text, x.noted text]).interpret c) inputs := by
    intro text
    rcases hhandler with ⟨h, rfl⟩ | ⟨h, rfl⟩
    · exact World.watch_alike (KindLayer.alike_stack text hne hc) rfl inputs
    · have hc' : c.AsksOnly ((KindLayer.handler h).Independent x) := hc.mono fun _ _ => .symm
      exact (World.watch_alike (KindLayer.alike_stack text hne.symm hc') rfl inputs).symm
  refine ⟨?_, hwatch⟩
  have hplain := hwatch fun _ _ => none
  simp only [KindLayer.noted_none] at hplain
  rw [← World.map_fst_watch, ← World.map_fst_watch, hplain]

/-- A handler that asks outward, and a layer that answers with the last payload it was given, around
a process that asks the handler, the layer, and the handler once more with what the layer has
answered. Both nestings ask outward twice and complete with the second answer. -/
theorem handler_commutes_with_last_payload :
    let x : KindLayer := .handler ⟨.tag "a", fun payload => (Process.perform .log payload).start⟩
    let y : KindLayer := .threaded <| .computing (.tag "b") Value.null
      (fun last payload => (.ok last, payload.asValue?.getD .null)) fun _ v => v
    let c : Process := (Process.perform (.tag "a") (.value (.str "first"))).andThen fun v =>
      .done <| (Process.perform (.tag "b") (.value v)).andThen fun v =>
        .done (.perform (.tag "a") (.value v))
    let text : Kind → Payload → Option String := fun kind payload =>
      some (kind.shown ++ (payload.asValue?.bind Value.asStr?).getD "")
    let inputs : List Value := [.null, .str "1", .str "2"]
    x.kind ≠ y.kind ∧ c.AsksOnly (x.Independent y) ∧
      Observed.upToEnd (World.observe {} ((Stack.mk [x.toLayer, y.toLayer]).interpret c) inputs) =
        [.suspended ⟨.log, .value (.str "first")⟩, .suspended ⟨.log, .value .null⟩,
          .completed (.str "2")] ∧
      World.watch {} ((Stack.mk [x.noted text, y.noted text]).interpret c) inputs =
        [(.suspended ⟨.log, .value (.str "first")⟩, #["afirst"]),
          (.suspended ⟨.log, .value .null⟩, #["afirst", "b1", "a"]),
          (.completed (.str "2"), #["afirst", "b1", "a"])] := by
  intro x y c text inputs
  have hne : x.kind ≠ y.kind := by decide
  have hlog : Kind.log ≠ y.kind := by decide
  have hx : ∀ payload, x.AnswersWithout y.kind payload := fun _ => ⟨hlog, fun _ => trivial⟩
  have hindependent : ∀ kind payload, x.Independent y kind payload :=
    fun kind payload => ⟨fun _ => hx payload, fun _ => trivial⟩
  have hc : c.AsksOnly (x.Independent y) := c.asksOnly_of_forall hindependent
  obtain ⟨hseen, hnoted⟩ := disjoint_layers_commute x y (.inl ⟨_, rfl⟩) hne c hc {} inputs
  exact ⟨hne, hc, hseen.trans rfl, (hnoted text).trans rfl⟩

end Effects
