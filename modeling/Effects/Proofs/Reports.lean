import Effects.Proofs.Alike
import Effects.Proofs.Answering
import Effects.Proofs.Retrying

/-!
# Reports have no part in what happens

Two operations are alike if they do the same, apart from what the machinery reports. Whoever polls
them cannot tell them apart: whatever happens, both rest in the same place or have ended with the
same outcome, and their machines are the same once the reports have been forgotten, `Task.Same`. In
particular they come to the same after the same time.

Two machines are compared by `Machine.quiet`, which forgets the reports. Nothing that a machine does
looks at them.
-/

namespace Effects

/-! ## Machines that differ in their reports -/

namespace Machine

/-- A machine whose reports have been forgotten. -/
def quiet (m : Machine) : Machine := { m with world := m.world.quiet }

variable {m m' : Machine}

theorem eq_of_quiet_eq (h : m.quiet = m'.quiet) :
    ∃ w, m' = { m with world := w } ∧ m.world.quiet = w.quiet := by
  obtain ⟨⟩ := m
  obtain ⟨w⟩ := m'
  simp only [quiet, Machine.mk.injEq] at h
  obtain ⟨hworld, rfl, rfl, rfl, rfl, rfl, rfl⟩ := h
  exact ⟨w, rfl, hworld⟩

theorem quiet_eq_of_world {w w' : World} (h : m.quiet = m'.quiet) (hw : w.quiet = w'.quiet) :
    ({ m with world := w } : Machine).quiet = ({ m' with world := w' } : Machine).quiet := by
  obtain ⟨_, rfl, -⟩ := eq_of_quiet_eq h
  exact congrArg (fun world => ({ m with world } : Machine)) hw

theorem quiet_postpone (who : Party) (h : m.quiet = m'.quiet) :
    (m.postpone who).quiet = (m'.postpone who).quiet := by
  obtain ⟨w, rfl, hw⟩ := eq_of_quiet_eq h
  unfold postpone
  split <;> exact congrArg (fun world => ({ m with world, postponed := _ } : Machine)) hw

theorem quiet_enqueue (h : m.quiet = m'.quiet) (id : Nat) :
    (m.enqueue id).quiet = (m'.enqueue id).quiet := by
  obtain ⟨w, rfl, hw⟩ := eq_of_quiet_eq h
  unfold enqueue
  split <;> exact congrArg (fun world => ({ m with world, queue := _ } : Machine)) hw

theorem quiet_advanceTo (h : m.quiet = m'.quiet) (instant : Nat) :
    (m.advanceTo instant).quiet = (m'.advanceTo instant).quiet := by
  have henqueue (ids : List Nat) : ∀ {m m' : Machine}, m.quiet = m'.quiet →
      (ids.foldl enqueue m).quiet = (ids.foldl enqueue m').quiet := by
    induction ids with
    | nil => exact id
    | cons id ids ih => exact fun h => ih (quiet_enqueue h id)
  obtain ⟨w, rfl, hw⟩ := eq_of_quiet_eq h
  exact henqueue _ (congrArg (fun m : Machine => { m with now := instant }) h)

end Machine

theorem World.channelState_eq_of_quiet {w w' : World} (h : w.quiet = w'.quiet) (channel : Channel) :
    w.channelState channel = w'.channelState channel :=
  channelState_congr (congrArg channels h) channel

theorem World.unheard_eq_of_quiet {w w' : World} (h : w.quiet = w'.quiet) :
    w.unheard = w'.unheard := (congrArg unheard h :)

theorem Machine.quiet_send {m m' : Machine} (h : m.quiet = m'.quiet) (channel : Channel)
    (outcome : Outcome) :
    (m.send channel outcome).2.quiet = (m'.send channel outcome).2.quiet := by
  obtain ⟨w, rfl, hw⟩ := eq_of_quiet_eq h
  have hsent : ({ m.world with
      channels := m.world.channels.setIfInBounds channel.id (.sent outcome) } : World).quiet =
      ({ w with channels := w.channels.setIfInBounds channel.id (.sent outcome) } : World).quiet :=
    congrArg (fun world : World => ({ world with
      channels := world.channels.setIfInBounds channel.id (.sent outcome) } : World)) hw
  unfold send
  simp only [World.channelState_eq_of_quiet hw channel]
  split
  · split
    · exact quiet_enqueue (quiet_eq_of_world rfl hsent) _
    · exact quiet_eq_of_world rfl hsent
  · exact h

/-! ## Operations that are alike -/

/-- The two operations do the same, apart from reports. -/
inductive Operation.Alike : Operation → Operation → Prop where
  | settled (outcome : Outcome) : Alike (.settled outcome) (.settled outcome)
  | act (a : Act) {next next' : a.Answer → Operation}
    (h : ∀ answer, Alike (next answer) (next' answer)) : Alike (.act a next) (.act a next')
  | sleep (ms : Nat) (held : List Claim) {next next' : Operation} (h : Alike next next') :
    Alike (.sleep ms held next) (.sleep ms held next')
  | receive (channel : Channel) (held : List Claim) {next next' : Outcome → Operation}
    (h : ∀ outcome, Alike (next outcome) (next' outcome)) :
    Alike (.receive channel held next) (.receive channel held next')
  /-- The first operation reports an event of the machinery. -/
  | reportedLeft {event : Event} (hevent : event.isLog = false) {next : Unit → Operation}
    {op : Operation} (h : Alike (next ()) op) : Alike (.act (.report event) next) op
  /-- The second operation reports an event of the machinery. -/
  | reportedRight {event : Event} (hevent : event.isLog = false) {next : Unit → Operation}
    {op : Operation} (h : Alike op (next ())) : Alike op (.act (.report event) next)

namespace Operation.Alike

theorem refl (op : Operation) : op.Alike op := by
  induction op with
  | settled outcome => exact .settled outcome
  | act a next ih => exact .act a ih
  | sleep ms held next ih => exact .sleep ms held ih
  | receive channel held next ih => exact .receive channel held ih

theorem symm {op op' : Operation} (h : op.Alike op') : op'.Alike op := by
  induction h with
  | settled outcome => exact .settled outcome
  | act a _ ih => exact .act a ih
  | sleep ms held _ ih => exact .sleep ms held ih
  | receive channel held _ ih => exact .receive channel held ih
  | reportedLeft hevent _ ih => exact .reportedRight hevent ih
  | reportedRight hevent _ ih => exact .reportedLeft hevent ih

/-- Operations go on in ways that are alike. -/
theorem andThen {op op' : Operation} (h : op.Alike op') (held : List Claim)
    {next next' : Outcome → Operation} (hnext : ∀ outcome, (next outcome).Alike (next' outcome)) :
    (op.andThen held next).Alike (op'.andThen held next') := by
  induction h with
  | settled outcome => exact hnext outcome
  | act a _ ih => exact .act a ih
  | sleep ms own _ ih => exact .sleep ms _ ih
  | receive channel own _ ih => exact .receive channel _ ih
  | reportedLeft hevent _ ih => exact .reportedLeft hevent ih
  | reportedRight hevent _ ih => exact .reportedRight hevent ih

theorem available {op op' : Operation} (h : op.Alike op') {outcomes : Channel → Outcome}
    {w w' : World} (hw : w.quiet = w'.quiet) (havailable : op.Available outcomes w) :
    op'.Available outcomes w' := by
  induction h generalizing w w' with
  | settled outcome => trivial
  | act a _ ih =>
    obtain ⟨hanswer, hworld⟩ := World.quiet_perform hw a
    refine ih _ hworld ?_
    rw [← hanswer]
    exact havailable
  | sleep ms held _ ih => exact ih hw havailable
  | receive channel held _ ih =>
    refine ⟨?_, ih _ hw havailable.2⟩
    rw [← World.channelState_eq_of_quiet hw channel]
    exact havailable.1
  | @reportedLeft event hevent _ _ _ ih =>
    exact ih ((World.quiet_report w hevent).trans hw) havailable
  | @reportedRight event hevent _ _ _ ih =>
    exact ih (hw.trans (World.quiet_report w' hevent).symm) havailable

end Operation.Alike

/-! ## Polling operations that are alike -/

/-- The two operations rest in the same place and go on alike. -/
inductive Resting.Alike : Resting → Resting → Prop where
  | asleep (deadline : Nat) (ticket : Option Nat) (held : List Claim) {next next' : Operation}
    (h : next.Alike next') : Alike (.asleep deadline ticket held next)
      (.asleep deadline ticket held next')
  | listening (channel : Channel) (noticed : Bool) (held : List Claim)
    {next next' : Outcome → Operation} (h : ∀ outcome, (next outcome).Alike (next' outcome)) :
    Alike (.listening channel noticed held next) (.listening channel noticed held next')

/-- The two tasks are in the same place and go on alike. -/
inductive Task.Alike : Task → Task → Prop where
  | ready {op op' : Operation} (h : op.Alike op') : Alike (.ready op) (.ready op')
  | resting {r r' : Resting} (h : r.Alike r') : Alike (.resting r) (.resting r')
  | ended (outcome : Outcome) : Alike (.ended outcome) (.ended outcome)

/-- The two tasks are alike, and their machines are the same, reports aside. -/
structure Task.Same (s s' : Task × Machine) : Prop where
  task : s.1.Alike s'.1
  machine : s.2.quiet = s'.2.quiet

theorem Task.Alike.ended_iff {task task' : Task} (h : task.Alike task') (outcome : Outcome) :
    task = .ended outcome ↔ task' = .ended outcome := by
  cases h with
  | ready h => exact ⟨nofun, nofun⟩
  | resting h => exact ⟨nofun, nofun⟩
  | ended outcome' => exact Iff.rfl

section

variable (who : Party) {m m' : Machine}

theorem Operation.Alike.follow {op op' : Operation} (h : op.Alike op') (hm : m.quiet = m'.quiet) :
    Task.Same ((m.follow who op).map Progress.task id)
      ((m'.follow who op').map Progress.task id) := by
  induction h generalizing m m' with
  | settled outcome => exact ⟨.ended outcome, hm⟩
  | act a _ ih =>
    obtain ⟨w, rfl, hw⟩ := Machine.eq_of_quiet_eq hm
    obtain ⟨hanswer, hworld⟩ := World.quiet_perform hw a
    rw [Machine.follow_act, Machine.follow_act, hanswer]
    exact ih _ (Machine.quiet_eq_of_world hm hworld)
  | sleep ms held hnext ih =>
    have hpostponed := Machine.quiet_postpone who hm
    obtain ⟨w, rfl, hw⟩ := Machine.eq_of_quiet_eq hm
    rw [Machine.follow, Machine.follow]
    by_cases hspent : m.allowance = 0
    · rw [if_pos hspent, if_pos hspent]
      exact ⟨.resting (.asleep _ _ _ hnext), hpostponed⟩
    · rw [if_neg hspent, if_neg hspent]
      by_cases hms : ms = 0
      · rw [if_pos hms, if_pos hms]
        exact ih (congrArg Machine.spend hm)
      · rw [if_neg hms, if_neg hms]
        exact ⟨.resting (.asleep _ _ _ hnext),
          congrArg (fun m : Machine => { m with tickets := m.tickets + 1 }) hm⟩
  | receive channel held hnext ih =>
    have hpostponed := Machine.quiet_postpone who hm
    obtain ⟨w, rfl, hw⟩ := Machine.eq_of_quiet_eq hm
    rw [Machine.follow, Machine.follow]
    by_cases hspent : m.allowance = 0
    · rw [if_pos hspent, if_pos hspent]
      exact ⟨.resting (.listening _ _ _ hnext), hpostponed⟩
    · rw [if_neg hspent, if_neg hspent, World.channelState_eq_of_quiet hw channel]
      simp only
      split
      · exact ih _ (congrArg Machine.spend hm)
      · exact ⟨.resting (.listening _ _ _ hnext), hm⟩
  | reportedLeft hevent _ ih =>
    refine ih (Eq.trans ?_ hm)
    exact Machine.quiet_eq_of_world rfl (World.quiet_report _ hevent)
  | reportedRight hevent _ ih =>
    refine ih (hm.trans ?_)
    exact Machine.quiet_eq_of_world rfl (World.quiet_report _ hevent).symm

theorem Resting.Alike.resume {r r' : Resting} (h : r.Alike r') (hm : m.quiet = m'.quiet) :
    Task.Same ((m.resume who r).map Progress.task id)
      ((m'.resume who r').map Progress.task id) := by
  have hpostponed := Machine.quiet_postpone who hm
  have hspend : m.spend.quiet = m'.spend.quiet := congrArg Machine.spend hm
  obtain ⟨w, rfl, hw⟩ := Machine.eq_of_quiet_eq hm
  rw [Machine.resume.eq_def, Machine.resume.eq_def]
  by_cases hspent : m.allowance = 0
  · rw [if_pos hspent, if_pos hspent]
    exact ⟨.resting h, hpostponed⟩
  · rw [if_neg hspent, if_neg hspent]
    cases h with
    | asleep deadline ticket held hnext =>
      simp only
      split
      · exact hnext.follow who hspend
      · cases ticket with
        | some ticket => exact ⟨.resting (.asleep _ _ _ hnext), hm⟩
        | none =>
          exact ⟨.resting (.asleep _ _ _ hnext),
            congrArg (fun m : Machine => { m with tickets := m.tickets + 1 }) hm⟩
    | listening channel noticed held hnext =>
      simp only [World.channelState_eq_of_quiet hw channel]
      split
      · exact (hnext _).follow who hspend
      · exact ⟨.resting (.listening _ _ _ hnext), hm⟩

theorem Task.Alike.poll {task task' : Task} (h : task.Alike task') (hm : m.quiet = m'.quiet) :
    Task.Same (task.poll who m) (task'.poll who m') := by
  cases h with
  | ready h => exact h.follow who hm
  | resting h => exact h.resume who hm
  | ended outcome => exact ⟨.ended outcome, hm⟩

namespace Task.Same

variable {s s' : Task × Machine} (outcomes : Channel → Outcome)

theorem now_eq (h : Same s s') : s.2.now = s'.2.now := (congrArg Machine.now h.machine :)

theorem occur (h : Same s s') (happening : Happening) :
    Same (happening.occur (Task.poll who) outcomes s)
      (happening.occur (Task.poll who) outcomes s') := by
  cases happening with
  | poll allowance =>
    exact h.task.poll who (congrArg (fun m : Machine => { m with allowance }) h.machine)
  | pass ms =>
    refine ⟨h.task, ?_⟩
    simp only [Happening.occur, h.now_eq]
    exact Machine.quiet_advanceTo h.machine _
  | settle channel => exact ⟨h.task, Machine.quiet_send h.machine channel _⟩

/-- Whatever happens, the tasks cannot be told apart. -/
theorem after (h : Same s s') (happenings : List Happening) :
    Same (after (Task.poll who) outcomes happenings s)
      (after (Task.poll who) outcomes happenings s') := by
  induction happenings generalizing s s' with
  | nil => exact h
  | cons happening later ih => exact ih (h.occur who outcomes happening)

theorem isDue_eq (h : Same s s') : s.1.isDue s.2 = s'.1.isDue s'.2 := by
  obtain ⟨task, m⟩ := s
  obtain ⟨task', m'⟩ := s'
  obtain ⟨htask, hm⟩ := h
  obtain ⟨w, rfl, hw⟩ := Machine.eq_of_quiet_eq hm
  cases htask with
  | ready | ended => rfl
  | resting hr =>
    cases hr with
    | asleep => rfl
    | listening channel noticed held hnext =>
      simp only [isDue, Machine.isDue, World.channelState_eq_of_quiet hw channel]

theorem prompt (h : Same s s') {happening : Happening} (hprompt : Prompt happening s) :
    Prompt happening s' := by
  cases happening with
  | poll allowance => trivial
  | settle channel => trivial
  | pass ms =>
    obtain ⟨deadline, ticket, held, next, hasleep, hle⟩ := hprompt
    have hnow := h.now_eq
    obtain ⟨task, m⟩ := s
    obtain ⟨task', m'⟩ := s'
    obtain rfl : task = .resting (.asleep deadline ticket held next) := hasleep
    cases h.task with
    | resting hr =>
      cases hr with
      | asleep _ _ _ hnext => exact ⟨deadline, ticket, held, _, rfl, hnow ▸ hle⟩

theorem punctual (h : Same s s') {happenings : List Happening}
    (hpunctual : Punctual who outcomes happenings s) :
    Punctual who outcomes happenings s' := by
  induction happenings generalizing s s' with
  | nil => trivial
  | cons happening later ih =>
    exact ⟨h.prompt hpunctual.1, ih (h.occur who outcomes happening) hpunctual.2⟩

theorem turns_eq (h : Same s s') (happenings : List Happening) :
    turns who outcomes happenings s = turns who outcomes happenings s' := by
  induction happenings generalizing s s' with
  | nil => rfl
  | cons happening later ih =>
    have hturn : isTurn happening s = isTurn happening s' := by
      cases happening with
      | poll allowance => exact congrArg (decide (0 < allowance) && ·) h.isDue_eq
      | pass ms => rfl
      | settle channel => rfl
    rw [turns, turns, hturn, ih (h.occur who outcomes happening)]

end Task.Same

/-- Operations that are alike come to the same after the same time. -/
theorem Operation.Alike.comesTo {op op' : Operation} (h : op.Alike op')
    {outcomes : Channel → Outcome} {outcome : Outcome} {ms : Nat} {left : World}
    (hcomes : op'.ComesTo who outcomes m outcome ms left) :
    op.ComesTo who outcomes m outcome ms left := by
  have hsame : Task.Same (.ready op, m) (.ready op', m) := ⟨.ready h, rfl⟩
  have hsame' : Task.Same (.ready op', m) (.ready op, m) := ⟨.ready h.symm, rfl⟩
  have hafter (happenings : List Happening) := hsame.after who outcomes happenings
  refine ⟨?_, ?_, fun happenings outcome' hended => ?_⟩
  · obtain ⟨happenings, hpunctual, hended⟩ := hcomes.ends
    exact ⟨happenings, hsame'.punctual who outcomes hpunctual,
      ((hafter happenings).task.ended_iff outcome).mpr hended⟩
  · obtain ⟨count, hends⟩ := hcomes.terminates
    refine ⟨count, fun happenings hcount => ((hafter happenings).task.ended_iff outcome).mpr ?_⟩
    exact hends happenings (hsame.turns_eq who outcomes happenings ▸ hcount)
  · obtain ⟨houtcome, hleft, htime⟩ := hcomes.ended happenings outcome'
      (((hafter happenings).task.ended_iff outcome').mp hended)
    have hworld := World.unheard_eq_of_quiet
      (congrArg Machine.world (hafter happenings).machine :)
    exact ⟨houtcome, hworld.trans hleft, fun hpunctual =>
      (hafter happenings).now_eq.trans (htime (hsame.punctual who outcomes hpunctual))⟩

end

/-! ## Processes without reports -/

/-- The answer to an act that is nothing but a report of the machinery. -/
def Act.reported? : (a : Act) → Option a.Answer
  | .report event => if event.isLog then none else some ()
  | _ => none

theorem World.quiet_perform_reported {a : Act} {answer : a.Answer} (h : a.reported? = some answer)
    (w : World) : (w.perform a).1 = answer ∧ (w.perform a).2.quiet = w.quiet := by
  cases a with
  | report event =>
    have hevent : event.isLog = false := by
      by_contra hlog
      simp [Act.reported?, hlog] at h
    exact ⟨rfl, w.quiet_report hevent⟩
  | _ => cases h

mutual

/-- The process without the reports of the machinery. -/
def Process.silent : Process → Process
  | .spent held => .spent held
  | .paused held resume => .paused held fun input => (resume input).silent

/-- The run without the reports of the machinery. -/
def Run.silent : Run → Run
  | .act a next =>
    match a.reported? with
    | some answer => (next answer).silent
    | none => .act a fun answer => (next answer).silent
  | .suspended kind payload rest => .suspended kind payload rest.silent
  | .completed value rest => .completed value rest.silent
  | .failed failure rest => .failed failure rest.silent

end

theorem Process.held_silent (p : Process) : p.silent.held = p.held := by
  cases p <;> rfl

theorem Process.advance_silent (p : Process) (v : Value) :
    p.silent.advance v = (p.advance v).silent := by
  cases p <;> rfl

/-- Without its reports a process shows the same. -/
theorem World.settle_silent (r : Run) {w w' : World} (hw : w.quiet = w'.quiet) :
    (w.settle r).1.observed = (w'.settle r.silent).1.observed ∧
      (w'.settle r.silent).1.rest = (w.settle r).1.rest.silent ∧
      (w.settle r).2.quiet = (w'.settle r.silent).2.quiet := by
  induction r using Run.induct generalizing w w' with
  | act a next ih =>
    rw [Run.silent]
    split
    · rename_i answer hanswer
      obtain ⟨rfl, hquiet⟩ := w.quiet_perform_reported hanswer
      exact ih _ (hquiet.trans hw)
    · obtain ⟨hanswer, hworld⟩ := quiet_perform hw a
      rw [settle_act, settle_act, hanswer]
      exact ih _ hworld
  | suspended | completed | failed => exact ⟨rfl, rfl, hw⟩

theorem World.observe_silent (p : Process) {w w' : World} (hw : w.quiet = w'.quiet)
    (inputs : List Value) :
    w.observe p inputs = w'.observe p.silent inputs ∧
      (w.steps p inputs).2.quiet = (w'.steps p.silent inputs).2.quiet := by
  induction inputs generalizing p w w' with
  | nil => exact ⟨rfl, hw⟩
  | cons v inputs ih =>
    obtain ⟨hobserved, hrest, hquiet⟩ := settle_silent (p.advance v) hw
    obtain ⟨hlater, hlast⟩ := ih (w.settle (p.advance v)).1.rest hquiet
    rw [observe_cons, observe_cons, steps_cons, steps_cons, p.advance_silent, hobserved, hrest]
    exact ⟨congrArg _ hlater, hlast⟩

theorem Run.alike_drive_silent (r : Run) : r.drive.Alike r.silent.drive := by
  induction r using Run.induct with
  | act a next ih =>
    rw [Run.silent]
    split
    · rename_i answer hanswer
      intro w w' hw
      obtain ⟨rfl, hquiet⟩ := w.quiet_perform_reported hanswer
      exact ih _ (hquiet.trans hw)
    · exact .act a ih
  | suspended kind payload rest =>
    rw [Run.silent, Run.drive, Run.drive, Process.held_silent]
    exact .refl _
  | completed v rest =>
    rw [Run.silent, Run.drive, Run.drive, Process.held_silent]
    exact .refl _
  | failed failure rest =>
    rw [Run.silent, Run.drive, Run.drive, Process.held_silent]
    exact .refl _

theorem Run.silent_releasing (claims : List Claim) (next : Unit → Run) :
    (Run.releasing claims next).silent = .releasing claims fun _ => (next ()).silent := by
  cases claims <;> rfl

theorem Run.silent_reporting (level : Level) (message : String) (fields : List (String × String))
    (next : Unit → Run) : (Run.reporting level message fields next).silent = (next ()).silent := rfl

section

variable {kind : Kind} {inner inner' : Process}

theorem Process.held_eq_of_silent (hinner : inner.silent = inner'.silent) :
    inner.held = inner'.held := by
  rw [← inner.held_silent, hinner, inner'.held_silent]

mutual

/-- Of the process that waits for a handler at work the reports do not matter. -/
theorem Process.silent_serving (hinner : inner.silent = inner'.silent) :
    ∀ p : Process, (Process.serving kind inner p).silent = (Process.serving kind inner' p).silent
  | .spent held => by
    rw [Process.serving, Process.serving, Process.held_eq_of_silent hinner]
  | .paused held resume => by
    have hresume := funext fun input => Run.silent_serving hinner (resume input)
    rw [Process.serving, Process.serving, Process.held_eq_of_silent hinner]
    exact congrArg (Process.paused _) hresume

theorem Run.silent_serving (hinner : inner.silent = inner'.silent) :
    ∀ r : Run, (Run.serving kind inner r).silent = (Run.serving kind inner' r).silent
  | .act a next => by
    have hnext (answer : a.Answer) := Run.silent_serving hinner (next answer)
    rw [Run.serving, Run.serving, Run.silent, Run.silent]
    split
    · exact hnext _
    · exact congrArg (Run.act a) (funext hnext)
  | .suspended asked payload rest =>
    congrArg (Run.suspended asked payload) (Process.silent_serving hinner rest)
  | .completed v rest => by
    rw [Run.serving, Run.serving, Run.silent_releasing, Run.silent_releasing,
      ← Process.advance_silent, ← Process.advance_silent, hinner]
  | .failed failure rest =>
    congrArg (Run.failed failure) (Process.silent_serving hinner rest)

end

end

section

variable {h h' : Handler}

mutual

/-- Of a layer only the reports of its handler matter. -/
theorem Process.silent_handledBy (hkind : h.kind = h'.kind)
    (hhandle : ∀ inner payload, (Run.serving h.kind inner (h.handle payload)).silent =
      (Run.serving h.kind inner (h'.handle payload)).silent) :
    ∀ p : Process, (p.handledBy h).silent = (p.handledBy h').silent
  | .spent _ => rfl
  | .paused held resume =>
    congrArg (Process.paused held)
      (funext fun input => Run.silent_handledBy hkind hhandle (resume input))

theorem Run.silent_handledBy (hkind : h.kind = h'.kind)
    (hhandle : ∀ inner payload, (Run.serving h.kind inner (h.handle payload)).silent =
      (Run.serving h.kind inner (h'.handle payload)).silent) :
    ∀ r : Run, (r.handledBy h).silent = (r.handledBy h').silent
  | .act a next => by
    have hnext (answer : a.Answer) := Run.silent_handledBy hkind hhandle (next answer)
    rw [Run.handledBy, Run.handledBy, Run.silent, Run.silent]
    split
    · exact hnext _
    · exact congrArg (Run.act a) (funext hnext)
  | .suspended kind payload rest => by
    have hrest := Process.silent_handledBy hkind hhandle rest
    rw [Run.handledBy, Run.handledBy, ← hkind]
    by_cases hclaimed : kind = h.kind
    · rw [if_pos hclaimed, if_pos hclaimed, Run.silent_reporting, Run.silent_reporting, hhandle]
      exact Run.silent_serving hrest _
    · rw [if_neg hclaimed, if_neg hclaimed]
      exact congrArg (Run.suspended kind payload) hrest
  | .completed v rest => rfl
  | .failed failure rest =>
    congrArg (Run.failed failure) (Process.silent_handledBy hkind hhandle rest)

end

end

end Effects
