import Effects.Proofs.Propagation
import Effects.Proofs.Sequencing

/-!
# Folds

A fold is a flat loop: it keeps the items that are left, the accumulator and the step that is under
way. It comes to the same as the recursion that makes a sequence of the first step and the rest,
`Plan.stepwise`, whose parts are nested as deep as the list is long. The two are compared item by
item, since a loop and a sequence are different contexts around the same step.

What a step is called with, and when, is a matter of the dialogue of the fold: `StepByStep` puts it
together from the dialogues of the steps. The first step is handed the input of the first advance,
and the steps after it are started afresh.
-/

namespace Effects

/-- The recursion on the items: the first step, and then the rest of the list from its value on. The
step function, which owns `owned`, is handed on from step to step. -/
def Plan.stepwise (owned : List Claim) (f : Value → Value → Plan Process) :
    List Value → Value → Plan Process
  | [], acc => .done (.pure acc)
  | item :: rest, acc =>
    (f acc item).bind fun p => .done (p.andThenHolding owned fun acc => stepwise owned f rest acc)

theorem World.settle_advance (w : World) (plan : Plan Process) (v : Value) :
    w.settle (plan.advance v) = (w.carryOut plan).2.settle ((w.carryOut plan).1.advance v) :=
  settle_ofPlan ..

/-! ## Loops and sequences -/

theorem Frame.run_advance (frame : Frame) (plan : Plan Process) (v : Value) :
    frame.run (plan.advance v) = (plan.bind fun p => .done (frame.process p)).advance v := by
  rw [Plan.advance, Plan.advance, run_ofPlan, Run.ofPlan_bind]
  exact congrArg (Run.ofPlan plan) (funext fun p => (frame.advance_process p v).symm)

namespace Run

variable (owned : List Claim) (f : Value → Value → Plan Process)

/-- A loop goes on as the second part of a sequence does, which is built without a further act. -/
theorem alike_step_andThenHolding {next : Value → Run} {next' : Value → Process}
    (h : ∀ acc, (next acc).Alike (next' acc).start.dropAtEnd) (r : Run) :
    (r.step owned next).Alike (r.andThenHolding owned fun acc => .done (next' acc)) := by
  refine Context.alike_run [.looping owned next] [.first owned fun acc => .done (next' acc)] ?_ ?_
    (fun acc rest => ?_) r
  · simp [Frame.Admits]
  · simp [Frame.Admits]
  · show Run.Alike (.releasing rest.held fun _ => next acc)
      (Run.releasing rest.held fun _ => (next' acc).start.dropAtEnd)
    exact .releasing rest.held (h acc)

/-- The loop over two lists is the loop over the first, and then over the second. Until then the
step function is held for the second loop. -/
theorem alike_foldHanding_append (items more : List Value) (acc v : Value)
    (hinput : items = [] → v = .null) :
    (foldHanding owned f (items ++ more) acc v).Alike
      ((foldHanding [] f items acc v).andThenHolding owned fun acc =>
        .done (.foldHanding owned more acc f)) := by
  induction items generalizing acc v with
  | nil =>
    rw [hinput rfl]
    exact (Run.alike_dropAtEnd (foldHanding owned f more acc .null)).symm
  | cons item rest ih =>
    let later (acc : Value) : Plan Process := .done (.foldHanding owned more acc f)
    let loop (acc : Value) : Run := foldHanding [] f rest acc .null
    let whole (acc : Value) : Run := foldHanding owned f (rest ++ more) acc .null
    refine Context.alike_run [.looping owned whole] [.first owned later, .looping [] loop] ?_ ?_
      (fun acc left => ?_) ((f acc item).advance v)
    · simp [Frame.Admits]
    · simp [Frame.Admits]
    · show Run.Alike (.releasing left.held fun _ => foldHanding owned f (rest ++ more) acc .null)
        ((Frame.first owned later).run (.releasing left.held fun _ => loop acc))
      rw [Frame.run_releasing]
      exact .releasing left.held (ih acc .null fun _ => rfl)

end Run

/-! ## The recursion

In the recursion the step before is still there when the step function is called, and in the loop it
has been dropped. So the two are compared in worlds, for steps that the next call cannot see. -/

section

variable {owned : List Claim} {f : Value → Value → Plan Process}

/-- What the recursion does first when it goes on is to call the step function. -/
theorem Plan.UnseenBy.stepwise {item acc : Value} {w : World}
    (h : ∀ next, (f acc item).UnseenBy (f · next) w) (rest : List Value) :
    (f acc item).UnseenBy (Plan.stepwise owned f rest) w := by
  cases rest with
  | nil =>
    have hblind (acc : Value) : (Plan.stepwise owned f [] acc).Blind := trivial
    exact Plan.unseenBy_of_blind hblind (f acc item) w
  | cons next rest => exact Process.AtEnd.mono (fun acc' _ _ hblind => hblind.bind_done _) (h next)

/-- The loop of a fold is the recursion, which may stand in the place of a second part. -/
theorem Run.alikeIn_foldHanding {outer : Context} (hsilent : ∀ frame ∈ outer, frame.Silent)
    (houter : ∀ r : Run, Context.run outer r.dropAtEnd = r.dropAtEnd) (items : List Value)
    (acc v : Value) {w : World}
    (hunseen : ∀ acc item next later, w.nextSerial ≤ later.nextSerial →
      (f acc item).UnseenBy (f · next) later) :
    Run.AlikeIn w (.foldHanding owned f items acc v) (w.carryOut (.stepwise owned f items acc)).2
      (Context.run outer ((w.carryOut (.stepwise owned f items acc)).1.advance v)) := by
  induction items generalizing acc v w outer with
  | nil =>
    have hended : Context.run outer (Run.ended acc) = Run.ended acc := houter (.ended acc)
    show Run.AlikeIn w (.completed acc _) w (Context.run outer (Run.ended acc))
    rw [hended]
    exact .ended (.completed acc _) (.completed acc _) w w
  | cons item rest ih =>
    let loop (acc : Value) : Run := .foldHanding owned f rest acc .null
    have hsecond : ∀ frame ∈ [Frame.second], frame.Silent := by simp [Frame.silent_second]
    have hloop : Run.foldHanding owned f (item :: rest) acc v =
        .ofPlan (f acc item) fun p => (p.advance v).step owned loop :=
      (Frame.looping owned loop).run_ofPlan (f acc item) fun p => p.advance v
    have hbuilt : w.carryOut (.stepwise owned f (item :: rest) acc) =
        ((w.carryOut (f acc item)).1.andThenHolding owned (.stepwise owned f rest),
          (w.carryOut (f acc item)).2) := by
      rw [Plan.stepwise, World.carryOut_bind]
      rfl
    have hfirst : (f acc item).UnseenBy (.stepwise owned f rest) w :=
      Plan.UnseenBy.stepwise (fun next => hunseen acc item next w (Nat.le_refl _)) rest
    have hserial := w.nextSerial_le_carryOut (f acc item)
    rw [Plan.UnseenBy] at hfirst
    rw [hloop, hbuilt]
    refine .ofPlanLeft (f acc item) ?_
    generalize w.carryOut (f acc item) = built at *
    obtain ⟨p, w₁⟩ := built
    show Run.AlikeIn w₁ (Context.run [.looping owned loop] (p.advance v)) w₁
      (Context.run outer ((p.andThenHolding owned (.stepwise owned f rest)).advance v))
    rw [Process.advance_andThenHolding, show Context.run outer
      ((p.advance v).andThenHolding owned (.stepwise owned f rest)) =
        Context.run (outer ++ [.first owned (.stepwise owned f rest)]) (p.advance v) from
      (Context.run_append outer [.first owned (.stepwise owned f rest)] _).symm]
    refine Context.alikeIn_run _ _ ?_ ?_
      ((hfirst.advance (Nat.le_refl _) v).and_later.mono ?_)
    · simp [Frame.Silent, Frame.Admits, Frame.reports]
    · simpa [or_imp, forall_and, Frame.silent_first] using hsilent
    · rintro acc left later ⟨hblind, hlater⟩
      rw [Context.run_append]
      show Run.AlikeIn later (.releasing left.held fun _ => loop acc) later
        (Context.run outer (.ofPlan (.stepwise owned f rest acc) fun q =>
          .releasing left.held fun _ => q.start.dropAtEnd))
      rw [Context.run_ofPlan]
      refine .releasingLeft left.held (.ofPlanRight _ ?_)
      rw [Context.run_releasing, houter]
      refine .releasingRight left.held ?_
      have hreleased := later.nextSerial_release left.held
      have hrest := ih hsecond Run.dropAtEnd_dropAtEnd acc .null (w := later.release left.held)
        fun acc item next later' hlater' => hunseen acc item next later'
          (hserial.trans (hlater.trans (hreleased.ge.trans hlater')))
      rw [World.carryOut_release_of_blind hblind] at hrest
      exact hrest

end

/-- Where every step is started afresh, the loop is the one whose first step is handed `null`. -/
theorem Run.foldFrom_start (owned : List Claim) (f : Value → Value → Plan Process)
    (items : List Value) (acc : Value) :
    Run.foldFrom owned (fun acc item => (f acc item).start) items acc =
      .foldHanding owned f items acc .null := by
  induction items generalizing acc with
  | nil => rfl
  | cons item rest ih => exact congrArg (Run.step owned · _) (funext ih)

theorem World.observe_of_settle_eq {w : World} {p p' : Process} {v v' : Value}
    (h : w.settle (p.advance v) = w.settle (p'.advance v')) (inputs : List Value) :
    w.observe p (v :: inputs) = w.observe p' (v' :: inputs) := by
  rw [observe_cons, observe_cons, h]

/-- Processes that are alike when they are advanced with two inputs. -/
theorem World.observe_alike_advance {p p' : Process} {v v' : Value}
    (h : (p.advance v).Alike (p'.advance v')) {w w' : World} (hw : w.quiet = w'.quiet)
    (inputs : List Value) :
    Observed.upToEnd (w.observe p (v :: inputs)) =
      Observed.upToEnd (w'.observe p' (v' :: inputs)) :=
  have hlazy : (Process.lazy fun _ => p.advance v).Alike (.lazy fun _ => p'.advance v') :=
    fun _ => h
  observe_alike hlazy hw (.null :: inputs)

/-- What the first step makes of the input is all that the fold makes of it. -/
theorem World.settle_foldHanding_of_unasked (w : World) (owned : List Claim)
    {f : Value → Value → Plan Process} {items : List Value} {acc : Value}
    (h : ∀ item ∈ items.head?, (w.carryOut (f acc item)).1.Unasked) (v v' : Value) :
    w.settle (.foldHanding owned f items acc v) = w.settle (.foldHanding owned f items acc v') := by
  cases items with
  | nil => rfl
  | cons item rest =>
    let frame := Frame.looping owned fun acc => .foldHanding owned f rest acc .null
    have hloop (v : Value) : w.settle (.foldHanding owned f (item :: rest) acc v) =
        (w.carryOut (f acc item)).2.settle
          (frame.run ((w.carryOut (f acc item)).1.advance v)) := by
      show w.settle (frame.run ((f acc item).advance v)) = _
      rw [Frame.settle_run, settle_advance, ← Frame.settle_run]
    rw [hloop, hloop, h item rfl v v']

/-! ## Calls of the step function -/

/-- What can be said about a dialogue from outside: all but what remains of the process. -/
structure Minutes where
  /-- The commands that were answered, and their answers. -/
  exchanges : List (Command × Value)
  /-- What was seen at last. -/
  last : Observed
  /-- The answers that were not used. -/
  left : List Value
  /-- The world afterwards. -/
  world : World

/-- The minutes of a dialogue. -/
def Dialogue.minutes (d : Dialogue) : Minutes := ⟨d.exchanges, d.last.observed, d.left, d.world⟩

/-- The minutes of a fold from an accumulator on, step by step, with the calls of the step function.
The next call comes after a step has completed, with its value, and takes the next item. -/
inductive StepByStep (f : Value → Value → Plan Process) : List Value → Value → Value → World →
    List Value → List (Value × Value) → Minutes → Prop where
  /-- No item is left. -/
  | finished (acc v : Value) (w : World) (answers : List Value) :
    StepByStep f [] acc v w answers [] ⟨[], .completed acc, answers, w⟩
  /-- The step fails, or answers are missing. -/
  | stopped {item acc v : Value} {rest answers : List Value} {w : World} {d : Dialogue}
    (hd : ((f acc item).advance v).dialogue w answers = d)
    (hlast : ∀ acc' left, d.last ≠ .completed acc' left) :
    StepByStep f (item :: rest) acc v w answers [(acc, item)] d.minutes
  /-- The step completes. -/
  | stepped {item acc v acc' : Value} {rest answers : List Value} {w : World} {d : Dialogue}
    {left : Process} {calls : List (Value × Value)} {m : Minutes}
    (hd : ((f acc item).advance v).dialogue w answers = d) (hlast : d.last = .completed acc' left)
    (h : StepByStep f rest acc' .null (d.world.release left.held) d.left calls m) :
    StepByStep f (item :: rest) acc v w answers ((acc, item) :: calls)
      { m with exchanges := d.exchanges ++ m.exchanges }

/-- Where a step does not complete, a loop stops with it. -/
theorem Run.minutes_dialogue_step {r : Run} {owned : List Claim} {next : Value → Run} {w : World}
    {answers : List Value} (h : ∀ v rest, (r.dialogue w answers).last ≠ .completed v rest) :
    ((r.step owned next).dialogue w answers).minutes = (r.dialogue w answers).minutes := by
  induction r using Run.induct generalizing w answers with
  | act a next' ih => exact ih (w.perform a).1 h
  | suspended kind payload rest ih =>
    cases answers with
    | nil => rfl
    | cons answer answers =>
      rw [dialogue_answered] at h ⊢
      have hlater := ih answer h
      rw [← Process.advance_step] at hlater
      show ((Run.suspended kind payload (rest.step owned next)).dialogue w
        (answer :: answers)).minutes = _
      rw [dialogue_answered]
      exact congrArg (fun m => { m with exchanges := (⟨kind, payload⟩, answer) :: m.exchanges })
        hlater
  | completed v rest => exact (h v rest rfl).elim
  | failed failure rest => rfl

namespace StepByStep

variable {f : Value → Value → Plan Process}

theorem exists_calls (owned : List Claim) (items : List Value) (acc v : Value) (w : World)
    (answers : List Value) :
    ∃ calls, StepByStep f items acc v w answers calls
      ((Run.foldHanding owned f items acc v).dialogue w answers).minutes := by
  induction items generalizing acc v w answers with
  | nil => exact ⟨[], .finished acc v w answers⟩
  | cons item rest ih =>
    rw [Run.foldHanding]
    rcases (((f acc item).advance v).dialogue w answers).last.completed_or_not with
      ⟨acc', left, hlast⟩ | hlast
    · rw [Run.dialogue_step hlast]
      obtain ⟨calls, h⟩ := ih acc' .null
        ((((f acc item).advance v).dialogue w answers).world.release left.held)
        (((f acc item).advance v).dialogue w answers).left
      exact ⟨(acc, item) :: calls, .stepped rfl hlast h⟩
    · rw [Run.minutes_dialogue_step hlast]
      exact ⟨[(acc, item)], .stopped rfl hlast⟩

variable {items answers : List Value} {acc v : Value} {w : World}
  {calls calls' : List (Value × Value)} {m m' : Minutes}

theorem unique (h : StepByStep f items acc v w answers calls m)
    (h' : StepByStep f items acc v w answers calls' m') : calls = calls' ∧ m = m' := by
  induction h generalizing calls' m' with
  | finished =>
    cases h'
    exact ⟨rfl, rfl⟩
  | stopped hd hlast =>
    cases h' with
    | stopped hd' hlast' => exact ⟨rfl, hd ▸ hd' ▸ rfl⟩
    | stepped hd' hlast' => exact (hlast _ _ (hd.symm.trans hd' ▸ hlast')).elim
  | stepped hd hlast h ih =>
    cases h' with
    | stopped hd' hlast' => exact (hlast' _ _ (hd'.symm.trans hd ▸ hlast)).elim
    | stepped hd' hlast' h' =>
      subst hd
      subst hd'
      obtain ⟨rfl, rfl⟩ : _ ∧ _ := Step.completed.inj (hlast.symm.trans hlast')
      obtain ⟨rfl, rfl⟩ := ih h'
      exact ⟨rfl, rfl⟩

/-- Every call takes the next item. -/
theorem items_prefix (h : StepByStep f items acc v w answers calls m) :
    calls.map Prod.snd <+: items := by
  induction h with
  | finished => exact List.prefix_rfl
  | stopped hd hlast => exact List.cons_prefix_cons.mpr ⟨rfl, List.nil_prefix⟩
  | stepped hd hlast h ih => exact List.cons_prefix_cons.mpr ⟨rfl, ih⟩

/-- When the fold completes, there has been a call for each item. -/
theorem items_eq (h : StepByStep f items acc v w answers calls m) {b : Value}
    (hlast : m.last = .completed b) : calls.map Prod.snd = items := by
  induction h with
  | finished => rfl
  | @stopped item acc v rest answers w d hd hstop =>
    cases hd : d.last with
    | completed v left => exact (hstop v left hd).elim
    | suspended | failed => simp [Dialogue.minutes, hd, Step.observed] at hlast
  | stepped hd hstep h ih => exact congrArg (List.cons _) (ih hlast)

end StepByStep

/-! ## Folds in one advance -/

/-- All steps of a fold complete at once, each in the world that the one before has left; then there
is the last value, and the world afterwards. -/
inductive AtOnce (f : Value → Value → Plan Process) :
    List Value → Value → Value → World → Value → World → Prop where
  | finished (acc v : Value) (w : World) : AtOnce f [] acc v w acc w
  | stepped {item acc v acc' b : Value} {rest : List Value} {w w₁ w' : World} {left : Process}
    (hstep : w.settle ((f acc item).advance v) = (.completed acc' left, w₁))
    (h : AtOnce f rest acc' .null (w₁.release left.held) b w') :
    AtOnce f (item :: rest) acc v w b w'

/-- A loop that completes has come past its step. -/
theorem World.completed_of_step {w w' : World} {r : Run} {owned : List Claim} {next : Value → Run}
    {b : Value} {rest : Process} (h : w.settle (r.step owned next) = (.completed b rest, w')) :
    ∃ v left w₁, w.settle r = (.completed v left, w₁) ∧
      (w₁.release left.held).settle (next v) = (.completed b rest, w') := by
  have hrun := (Frame.looping owned next).settle_run w r
  rcases hending : w.settle r with ⟨step, w₁⟩
  rw [hending] at hrun
  cases step with
  | completed v left => exact ⟨v, left, w₁, rfl, (settle_step hending owned next).symm.trans h⟩
  | suspended command left =>
    have hstill : w.settle (r.step owned next) =
      (.suspended command (left.step owned next), w₁) := hrun
    rw [hstill] at h
    cases h
  | failed failure left =>
    have hstill : w.settle (r.step owned next) =
      (.failed failure (left.step owned next), w₁) := hrun
    rw [hstill] at h
    cases h

theorem World.settle_foldHanding_iff {owned : List Claim} {f : Value → Value → Plan Process}
    {items : List Value} {acc v b : Value} {w w' : World} :
    w.settle (.foldHanding owned f items acc v) = (.completed b (.spent owned), w') ↔
      AtOnce f items acc v w b w' := by
  induction items generalizing acc v w with
  | nil =>
    constructor
    · intro h
      cases h
      exact .finished _ v _
    · intro h
      cases h with
      | finished => rfl
  | cons item rest ih =>
    rw [Run.foldHanding]
    constructor
    · intro h
      obtain ⟨acc', left, w₁, hstep, hrest⟩ := completed_of_step h
      exact .stepped hstep (ih.mp hrest)
    · rintro (_ | ⟨hstep, hrest⟩)
      rw [settle_step hstep]
      exact ih.mpr hrest

/-! ## The law of folds -/

/-- **A fold is the monadic left fold.** Up to the first end, in any world and whatever the inputs
are, a fold shows what one step of the recursion shows: without items it completes with the initial
value, and else it is the sequence of the first step and the fold of the rest from its value on. It
shows what the whole recursion shows, if no call of the step function can see what remains of the
step before, which a step function cannot do that never asks about scopes.

The step function is called for the items in their order, for each of them once if the fold
completes, and after the first call each one comes when the step before has completed, with its
value; the commands are those of the steps. A fold over two lists is a sequence of two folds, where
the second one is handed `null`, which makes no difference if there is a step before or if the next
step has not been asked for anything yet. And a fold completes in one advance if and only if all its
steps do.

The fold whose first step is started afresh is the one that is advanced with `null` first. -/
theorem fold_is_monadic_left_fold (owned : List Claim) (f : Value → Value → Plan Process)
    (items : List Value) (init : Value) (w : World) (inputs : List Value) :
    ((∀ acc item next later, w.nextSerial ≤ later.nextSerial →
        (f acc item).UnseenBy (f · next) later) →
      Observed.upToEnd (w.observe (.foldHanding owned items init f) inputs) =
        Observed.upToEnd ((w.carryOut (.stepwise owned f items init)).2.observe
          (w.carryOut (.stepwise owned f items init)).1 inputs)) ∧
    (Observed.upToEnd (w.observe (.foldHanding owned [] init f) inputs) =
        Observed.upToEnd (w.observe (.pure init) inputs) ∧
      ∀ item,
        let unfolded := (f init item).bind fun p =>
          .done (p.andThenHolding owned fun acc => .done (.foldHanding owned items acc f))
        Observed.upToEnd (w.observe (.foldHanding owned (item :: items) init f) inputs) =
          Observed.upToEnd ((w.carryOut unfolded).2.observe (w.carryOut unfolded).1 inputs)) ∧
    (∀ v answers,
      let d := ((Process.foldHanding owned items init f).advance v).dialogue w answers
      Observed.upToEnd (w.observe (.foldHanding owned items init f) (v :: answers)) = d.observed ∧
      ∃! calls, StepByStep f items init v w answers calls d.minutes ∧
        calls.map Prod.snd <+: items ∧
        ∀ b rest, d.last = .completed b rest → calls.map Prod.snd = items) ∧
    (∀ more,
      let parts := (Process.foldHanding [] items init f).andThenHolding owned fun acc =>
        .done (.foldHanding owned more acc f)
      Observed.upToEnd (w.observe (.foldHanding owned (items ++ more) init f) (.null :: inputs)) =
        Observed.upToEnd (w.observe parts (.null :: inputs)) ∧
      ((items = [] → ∀ item ∈ more.head?, (w.carryOut (f init item)).1.Unasked) →
        Observed.upToEnd (w.observe (.foldHanding owned (items ++ more) init f) inputs) =
          Observed.upToEnd (w.observe parts inputs))) ∧
    (∀ v b w', w.settle ((Process.foldHanding owned items init f).advance v) =
      (.completed b (.spent owned), w') ↔ AtOnce f items init v w b w') ∧
    ∀ v, w.observe (.foldHolding owned items init fun acc item => (f acc item).start)
        (v :: inputs) =
      w.observe (.foldHanding owned items init f) (.null :: inputs) := by
  refine ⟨fun hunseen => ?_, ⟨?_, fun item => ?_⟩, fun v answers => ⟨?_, ?_⟩, fun more => ?_,
    fun v b w' => World.settle_foldHanding_iff, fun v => ?_⟩
  · have hnone : ∀ frame ∈ ([] : Context), frame.Silent := nofun
    rw [← World.observe_lazyHanding]
    exact World.observe_alikeIn (fun v => .ofPlanRight _
      (Run.alikeIn_foldHanding hnone (fun _ => rfl) items init v hunseen)) inputs
  · have halike : (Process.foldHanding owned [] init f).Alike (.pure init) :=
      fun _ => .ended (.completed init _) (.completed init _)
    exact World.observe_alike halike rfl inputs
  · intro unfolded
    rw [← World.observe_lazyHanding]
    refine World.observe_alike (fun v => ?_) rfl inputs
    let next (acc : Value) : Process := .foldHanding owned items acc f
    have hsequence := (Frame.first owned fun acc => .done (next acc)).run_advance (f init item) v
    show Run.Alike (((f init item).advance v).step owned fun acc => (next acc).start)
      (((f init item).bind fun p =>
        .done ((Frame.first owned fun acc => .done (next acc)).process p)).advance v)
    rw [← hsequence]
    exact Run.alike_step_andThenHolding owned
      (fun acc => (Run.alike_dropAtEnd (next acc).start).symm) _
  · exact w.observe_eq_dialogue _ v answers
  · obtain ⟨calls, h⟩ := StepByStep.exists_calls (f := f) owned items init v w answers
    refine ⟨calls, ⟨h, h.items_prefix, fun b rest hlast => ?_⟩, fun calls' h' => ?_⟩
    · exact h.items_eq (congrArg Step.observed hlast)
    · exact (h'.1.unique h).1
  · intro parts
    have hparts (v : Value) (hinput : items = [] → v = .null) (inputs : List Value) :
        Observed.upToEnd (w.observe (.foldHanding owned (items ++ more) init f) (v :: inputs)) =
          Observed.upToEnd (w.observe parts (v :: inputs)) := by
      refine World.observe_alike_advance ?_ rfl inputs
      show Run.Alike _ (((Process.foldHanding [] items init f).andThenHolding owned _).advance v)
      rw [Process.advance_andThenHolding]
      exact Run.alike_foldHanding_append owned f items more init v hinput
    refine ⟨hparts .null (fun _ => rfl) inputs, fun hunasked => ?_⟩
    cases inputs with
    | nil => rfl
    | cons v inputs =>
      cases items with
      | cons item rest => exact hparts v nofun inputs
      | nil =>
        have hsame : w.observe (.foldHanding owned more init f) (v :: inputs) =
            w.observe (.foldHanding owned more init f) (.null :: inputs) :=
          World.observe_of_settle_eq
            (w.settle_foldHanding_of_unasked owned (hunasked rfl) v .null) inputs
        exact (congrArg _ hsame).trans (hparts .null (fun _ => rfl) inputs)
  · have hloop : (Process.foldHolding owned items init fun acc item => (f acc item).start).advance v
        = (Process.foldHanding owned items init f).advance .null :=
      Run.foldFrom_start owned f items init
    exact World.observe_of_settle_eq (congrArg w.settle hloop) inputs

/-- A fold whose steps ask, each with the accumulator and the item: the calls are made with the
answers, and in the recursion as well. Put after a fold over nothing, the steps ask the same. And a
fold whose steps complete at once completes in its first advance, and keeps what it owns. -/
theorem fold_left_fold_of_asking :
    let ask : Value → Value → Plan Process := fun acc item =>
      .act (.note "step") fun _ => .done (.perform (.tag "ask") (.value (.list [acc, item])))
    let keep : Value → Value → Plan Process := fun acc item => .done (.pure (.list [acc, item]))
    let items : List Value := [.str "a", .str "b"]
    let answers : List Value := [.str "1", .str "2"]
    let d := ((Process.foldHanding [] items .null ask).advance .null).dialogue {} answers
    let recursion := World.carryOut {} (.stepwise [] ask items .null)
    let parts := (Process.foldHanding [] [] .null ask).andThen fun acc =>
      .done (.foldHanding [] items acc ask)
    Observed.upToEnd (World.observe {} (.foldHanding [] items .null ask) (.null :: answers)) =
      Observed.upToEnd (recursion.2.observe recursion.1 (.null :: answers)) ∧
    (∃ calls, StepByStep ask items .null .null {} answers calls d.minutes ∧
      calls = [(.null, .str "a"), (.str "1", .str "b")] ∧ calls.map Prod.snd = items) ∧
    Observed.upToEnd (World.observe {} (.foldHanding [] items .null ask) (.str "x" :: answers)) =
      Observed.upToEnd (World.observe {} parts (.str "x" :: answers)) ∧
    AtOnce keep items .null .null {} (.list [.list [.null, .str "a"], .str "b"]) {} := by
  intro ask keep items answers d recursion parts
  obtain ⟨hrecursion, -, hcalls, -⟩ :=
    fold_is_monadic_left_fold [] ask items .null {} (.null :: answers)
  obtain ⟨-, -, -, happend, -⟩ :=
    fold_is_monadic_left_fold [] ask [] .null {} (.str "x" :: answers)
  obtain ⟨-, -, -, -, honce, -⟩ :=
    fold_is_monadic_left_fold [.scope ⟨1⟩] keep items .null {} []
  have hblind (acc item : Value) : (ask acc item).Blind := ⟨nofun, nofun, fun _ => trivial⟩
  refine ⟨hrecursion fun acc item next later _ =>
    Plan.unseenBy_of_blind (fun acc => hblind acc next) (ask acc item) later, ?_,
    (happend items).2 fun _ item hitem => ?_, (honce .null _ {}).mp rfl⟩
  · obtain ⟨-, calls, ⟨h, -, hitems⟩, -⟩ := hcalls .null answers
    have hsteps : StepByStep ask items .null .null {} answers _ _ :=
      .stepped rfl rfl (.stepped rfl rfl (.finished _ _ _ _))
    exact ⟨calls, h, (h.unique hsteps).1, hitems _ _ rfl⟩
  · obtain rfl : .str "a" = item := Option.some.inj hitem
    exact fun _ _ => rfl

end Effects
