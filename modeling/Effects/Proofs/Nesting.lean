import Mathlib.Logic.Function.Iterate
import Effects.Proofs.Continuing
import Effects.Proofs.Reports

/-!
# Bridges inside bridges

A process can wait for the bridge of another process and go on with its value. Reports aside, the
operation that comes of this is the bridge of the other process, and then the bridge of what comes
next (`Process.alike_awaiting_andThen`). So it is enough to know how an operation that goes on with
its outcome is polled: until the first part ends, it rests where that rests, and in the poll in
which the first part ends it begins with the second (`Task.after_andThen` and
`Task.EndsAt.after_andThen`).

The bridge of both processes in a row does almost the same. But it builds the second part while the
first one is still there, and so what it does from then on is the same for continuations that cannot
see the first part: `Operation.Continues`.
-/

namespace Effects

/-- What follows the bridge of a process that another process waits for: a failure is wrapped. -/
def Operation.wrapping (k : Value → Plan Process) : Outcome → Operation
  | .ok v => (k v).start.awaited
  | .error e => .settled (.error (.asyncFailure e))

/-- The bridge of a process that waits for the bridge of another one. -/
theorem Process.alike_awaiting_andThen (c : Process) (k : Value → Plan Process) :
    ((awaiting c.bridge).andThen k).bridge.start.Alike
      (c.bridge.start.andThen [] (.wrapping k)) := by
  refine .reportedLeft rfl (.andThen (.refl _) [] fun outcome => ?_)
  cases outcome with
  | ok v =>
    show Operation.Alike (Run.ofPlan (k v) fun p => p.start.dropAtEnd).awaited (k v).start.awaited
    simp only [Plan.start, Run.awaited_ofPlan, Run.awaited_dropAtEnd]
    exact .refl _
  | error e => exact .reportedLeft rfl (.settled _)

/-- A process that only waits goes on with the value. -/
theorem Process.start_awaiting (p : Process) :
    (awaiting p.bridge).bridge.start =
      ((awaiting p.bridge).andThen fun v => .done (pure v)).bridge.start := by
  refine congrArg (Operation.reporting .debug "awaiting pending operation" [])
    (funext fun _ => congrArg (p.bridge.start.andThen []) (funext fun outcome => ?_))
  cases outcome <;> rfl

/-! ## Polling operations in a row -/

namespace Task

variable (who : Party)

/-- A task that goes on with its outcome. -/
def andThen (held : List Claim) (next : Outcome → Operation) : Task → Task
  | ready op => .ready (op.andThen held next)
  | resting r => .resting (r.andThen held next)
  | ended outcome => .ready (next outcome)

/-- A task that has been polled, and that goes on with its outcome: if it has ended, what comes
after is polled at once. -/
def goOn (held : List Claim) (next : Outcome → Operation) : Task × Machine → Task × Machine
  | (.ended outcome, m) => (Task.ready (next outcome)).poll who m
  | (task, m) => (task.andThen held next, m)

section

variable {who} {held : List Claim} {next : Outcome → Operation} {s : Task × Machine}

theorem goOn_of_ended {outcome : Outcome} (h : s.1 = .ended outcome) :
    goOn who held next s = (Task.ready (next outcome)).poll who s.2 := by
  obtain ⟨task, m⟩ := s
  obtain rfl : task = .ended outcome := h
  rfl

theorem goOn_of_rests (h : ∀ outcome, s.1 ≠ .ended outcome) :
    goOn who held next s = (s.1.andThen held next, s.2) := by
  obtain ⟨op | r | outcome, m⟩ := s
  · rfl
  · rfl
  · exact (h outcome rfl).elim

theorem poll_andThen {task : Task} (hrests : ∀ outcome, task ≠ .ended outcome) (m : Machine) :
    (task.andThen held next).poll who m = goOn who held next (task.poll who m) := by
  have hgoOn (progress : Progress × Machine) :
      (Machine.goOn who held next progress).map Progress.task id =
        goOn who held next (progress.map Progress.task id) := by
    obtain ⟨outcome | r, m⟩ := progress <;> rfl
  cases task with
  | ready op => rw [andThen, poll, Machine.follow_andThen, hgoOn, poll]
  | resting r => rw [andThen, poll, Machine.resume_andThen, hgoOn, poll]
  | ended outcome => exact (hrests outcome rfl).elim

end

variable {who} {outcomes : Channel → Outcome} {s : Task × Machine}

/-- A task that goes on with its outcome rests where the task itself rests. -/
theorem after_andThen (held : List Claim) (next : Outcome → Operation)
    (happenings : List Happening)
    (hrests : ∀ outcome, (after (poll who) outcomes happenings s).1 ≠ .ended outcome) :
    after (poll who) outcomes happenings (s.1.andThen held next, s.2) =
      ((after (poll who) outcomes happenings s).1.andThen held next,
        (after (poll who) outcomes happenings s).2) := by
  induction happenings generalizing s with
  | nil => rfl
  | cons happening later ih =>
    have hbefore (outcome : Outcome) : s.1 ≠ .ended outcome := fun h =>
      hrests outcome (after_of_ended (happening :: later) h)
    have hfirst (outcome : Outcome) :
        (happening.occur (poll who) outcomes s).1 ≠ .ended outcome := fun h =>
      hrests outcome (after_of_ended later h)
    rw [after_cons, after_cons, ← ih hrests]
    refine congrArg (after (poll who) outcomes later) ?_
    cases happening with
    | pass ms => rfl
    | settle channel => rfl
    | poll allowance => exact (poll_andThen hbefore _).trans (goOn_of_rests hfirst)

/-- In the poll in which a task ends, a task that goes on with its outcome begins with that. -/
theorem EndsAt.after_andThen {earlier : List Happening} {allowance : Nat} {outcome : Outcome}
    (h : EndsAt who outcomes s earlier allowance outcome) (held : List Claim)
    (next : Outcome → Operation) (later : List Happening) :
    after (poll who) outcomes (earlier ++ .poll allowance :: later) (s.1.andThen held next, s.2) =
      after (poll who) outcomes later ((Task.ready (next outcome)).poll who
        (after (poll who) outcomes (earlier ++ [.poll allowance]) s).2) := by
  have hends := h.ends
  rw [after_append] at hends
  rw [after_append, Task.after_andThen held next earlier h.rests, after_append]
  exact congrArg (after (poll who) outcomes later)
    ((poll_andThen h.rests _).trans (goOn_of_ended hends))

end Task

/-! ## How long operations in a row take -/

namespace Operation

variable {outcomes : Channel → Outcome} {op : Operation}

theorem carryOut_andThen (held : List Claim) (next : Outcome → Operation) (w : World) :
    let first := w.carryOut (op.carriedOut outcomes [])
    let second := first.2.carryOut ((next first.1.1).carriedOut outcomes [])
    w.carryOut ((op.andThen held next).carriedOut outcomes []) =
      ((second.1.1, first.1.2 ++ second.1.2), second.2) := by
  intro first second
  rw [carriedOut_andThen, World.carryOut_bind]
  exact carryOut_carriedOut outcomes (next first.1.1) first.2 first.1.2

/-- The times add up. -/
theorem Available.comesTo_andThen {m : Machine} (h : op.Available outcomes m.world)
    (held : List Claim) (next : Outcome → Operation) (who : Party) :
    let first := m.world.carryOut (op.carriedOut outcomes [])
    let second := first.2.carryOut ((next first.1.1).carriedOut outcomes [])
    (next first.1.1).Available outcomes first.2 →
      (op.andThen held next).ComesTo who outcomes m second.1.1
        (elapsed first.1.2 + elapsed second.1.2) second.2 := by
  intro first second hnext
  have havailable : (op.andThen held next).Available outcomes m.world := h.andThen hnext
  have hcomes := havailable.comesTo who
  rwa [carryOut_andThen, elapsed_append] at hcomes

/-- An operation comes to one outcome only, after one time. -/
theorem ComesTo.unique {who : Party} {m : Machine} {outcome outcome' : Outcome} {ms ms' : Nat}
    {left left' : World} (h : op.ComesTo who outcomes m outcome ms left)
    (h' : op.ComesTo who outcomes m outcome' ms' left') :
    outcome = outcome' ∧ ms = ms' ∧ left.unheard = left'.unheard := by
  obtain ⟨happenings, hpunctual, hended⟩ := h.ends
  obtain ⟨-, hleft, htime⟩ := h.ended happenings _ hended
  obtain ⟨houtcome, hleft', htime'⟩ := h'.ended happenings _ hended
  exact ⟨houtcome, Nat.add_left_cancel ((htime hpunctual).symm.trans (htime' hpunctual)),
    hleft.symm.trans hleft'⟩

end Operation

/-! ## Bridges inside bridges -/

/-- The process inside levels, the outermost first. At each level a process waits for the bridge of
what is inside, and it may go on with the value. -/
def Process.nestedIn (c : Process) : List (Option (Value → Plan Process)) → Process
  | [] => c
  | none :: levels => awaiting (c.nestedIn levels).bridge
  | some k :: levels => (awaiting (c.nestedIn levels).bridge).andThen k

/-- A failure that has been wrapped some times has the same causes, and as many more. -/
theorem Failure.sources_wrapped (n : Nat) (e : Failure) :
    (asyncFailure^[n] e :: (asyncFailure^[n] e).sources)[n]? = some e ∧
      (asyncFailure^[n] e).sources.length = n + e.sources.length := by
  induction n with
  | zero => exact ⟨rfl, (Nat.zero_add _).symm⟩
  | succ n ih =>
    rw [Function.iterate_succ_apply', sources, List.length_cons, ih.2]
    exact ⟨ih.1, by omega⟩

section

variable (who : Party) (outcomes : Channel → Outcome) (m : Machine)

/-- The bridge of a process, which starts in the machine, after some happenings. -/
def Process.bridged (p : Process) (happenings : List Happening) : Task × Machine :=
  after (Task.poll who) outcomes happenings (.ready p.bridge.start, m)

namespace Process

variable {who outcomes m} {c : Process} {happenings : List Happening}

/-- At the start, the bridge of both in a row is where the bridge of the process is. -/
theorem continued_bridge (who : Party) (k : Value → Plan Process) (c : Process) (m : Machine) :
    Task.Continued who (c.UnseenBy k m.world) k (.ready c.bridge.start, m)
      (.ready (c.andThen k).bridge.start, m) :=
  .along (.ready fun _ hlater => c.continues_bridge id hlater)

theorem same_bridged_awaiting (k : Value → Plan Process) :
    Task.Same (((awaiting c.bridge).andThen k).bridged who outcomes m happenings)
      (after (Task.poll who) outcomes happenings
        ((Task.ready c.bridge.start).andThen [] (.wrapping k), m)) :=
  have hstart : Task.Same (.ready ((awaiting c.bridge).andThen k).bridge.start, m)
    ((Task.ready c.bridge.start).andThen [] (.wrapping k), m) :=
      ⟨.ready (c.alike_awaiting_andThen k), rfl⟩
  hstart.after who outcomes happenings

/-- While the process is under way, so are the others. -/
theorem bridged_of_rests (k : Value → Plan Process)
    (hrests : ∀ outcome, (c.bridged who outcomes m happenings).1 ≠ .ended outcome) :
    let flat := (c.andThen k).bridged who outcomes m happenings
    let nested := ((awaiting c.bridge).andThen k).bridged who outcomes m happenings
    (∀ outcome, flat.1 ≠ .ended outcome ∧ nested.1 ≠ .ended outcome) ∧
      flat.2 = (c.bridged who outcomes m happenings).2 ∧
      nested.2.quiet = (c.bridged who outcomes m happenings).2.quiet := by
  intro flat nested
  obtain ⟨hflat, hmachine⟩ :=
    ((continued_bridge who k c m).after fun v => hrests (.ok v)).of_rests hrests
  have hunended (outcome : Outcome) :
      (c.bridged who outcomes m happenings).1.andThen [] (.wrapping k) ≠ .ended outcome := by
    cases (c.bridged who outcomes m happenings).1 <;> nofun
  have hnested : Task.Same nested _ := same_bridged_awaiting k
  rw [Task.after_andThen (s := (.ready c.bridge.start, m)) [] _ happenings hrests] at hnested
  exact ⟨fun outcome => ⟨hflat outcome, fun h =>
    hunended outcome ((hnested.task.ended_iff outcome).mp h)⟩, hmachine, hnested.machine⟩

variable {earlier : List Happening} {allowance : Nat}

/-- The process around the bridge goes on in the poll in which the bridge ends. -/
theorem same_bridged_of_endsAt (k : Value → Plan Process) {outcome : Outcome}
    (h : Task.EndsAt who outcomes (.ready c.bridge.start, m) earlier allowance outcome)
    (later : List Happening) :
    Task.Same (((awaiting c.bridge).andThen k).bridged who outcomes m
        (earlier ++ .poll allowance :: later))
      (after (Task.poll who) outcomes later
        ((Task.ready (.wrapping k outcome)).poll who
          (c.bridged who outcomes m (earlier ++ [.poll allowance])).2)) := by
  have hgoesOn : _ = after (Task.poll who) outcomes later _ :=
    h.after_andThen [] (.wrapping k) later
  exact hgoesOn ▸ same_bridged_awaiting k

/-- The others fail in the poll in which the process fails, and the continuation does not begin. -/
theorem bridged_of_failed (k : Value → Plan Process) {e : Failure}
    (hfailed : (c.bridged who outcomes m happenings).1 = .ended (.error e)) :
    (c.andThen k).bridged who outcomes m happenings = c.bridged who outcomes m happenings ∧
      Task.Same (((awaiting c.bridge).andThen k).bridged who outcomes m happenings)
        (.ended (.error (.asyncFailure e)), (c.bridged who outcomes m happenings).2) := by
  have hfails (v : Value) : (c.bridged who outcomes m happenings).1 ≠ .ended (.ok v) :=
    fun h => nomatch hfailed.symm.trans h
  refine ⟨((continued_bridge who k c m).after hfails).eq_of_failed hfailed, ?_⟩
  obtain ⟨earlier, allowance, later, rfl, hends⟩ :=
    Task.exists_endsAt (s := (.ready c.bridge.start, m)) nofun hfailed
  have hsolo : c.bridged who outcomes m (earlier ++ .poll allowance :: later) = _ :=
    hends.after_eq later
  rw [hsolo, ← Task.after_ended_congr later _ (.error e)]
  exact same_bridged_of_endsAt k hends later

/-- Each level wraps the failure once. -/
theorem same_bridged_nestedIn (levels : List (Option (Value → Plan Process))) {e : Failure}
    (hfailed : (c.bridged who outcomes m happenings).1 = .ended (.error e)) :
    Task.Same ((c.nestedIn levels).bridged who outcomes m happenings)
      (.ended (.error (Failure.asyncFailure^[levels.length] e)),
        (c.bridged who outcomes m happenings).2) := by
  induction levels with
  | nil => exact ⟨hfailed ▸ .ended _, rfl⟩
  | cons level levels ih =>
    have hinner := (ih.task.ended_iff _).mpr rfl
    have houter (k : Value → Plan Process) :=
      (bridged_of_failed (c := c.nestedIn levels) k hinner).2
    rw [List.length_cons, Function.iterate_succ_apply']
    cases level with
    | some k => exact ⟨(houter k).task, (houter k).machine.trans ih.machine⟩
    | none =>
      -- to wait and no more is to go on with the value as it is
      let k (v : Value) : Plan Process := .done (pure v)
      rw [nestedIn, bridged, start_awaiting]
      exact ⟨(houter k).task, (houter k).machine.trans ih.machine⟩

/-- What the bridge of two processes in a row, and the bridge around the first one, come to. -/
theorem comesTo_next (who : Party) (k : Value → Plan Process)
    (h : c.bridge.start.Available outcomes m.world) :
    let first := m.world.carryOut (c.bridge.start.carriedOut outcomes [])
    let second (next : Outcome → Operation) :=
      first.2.carryOut ((next first.1.1).carriedOut outcomes [])
    ((∀ v, first.1.1 = .ok v → c.UnseenBy k m.world) →
      (Operation.continuing k first.1.1).Available outcomes first.2 →
      (c.andThen k).bridge.start.ComesTo who outcomes m (second (.continuing k)).1.1
        (elapsed first.1.2 + elapsed (second (.continuing k)).1.2) (second (.continuing k)).2) ∧
    ((Operation.wrapping k first.1.1).Available outcomes first.2 →
      ((awaiting c.bridge).andThen k).bridge.start.ComesTo who outcomes m
        (second (.wrapping k)).1.1
        (elapsed first.1.2 + elapsed (second (.wrapping k)).1.2) (second (.wrapping k)).2) := by
  intro first second
  refine ⟨fun hunseen hnext => ?_, fun hnext =>
    (c.alike_awaiting_andThen k).comesTo who (h.comesTo_andThen [] _ who hnext)⟩
  have hcontinues := c.continues_bridge (k := k) (w := m.world) id (Nat.le_refl _)
  have hcomes := (hcontinues.available [] hunseen h hnext).comesTo who
  rwa [hcontinues.carryOut [] hunseen, Operation.carryOut_andThen, elapsed_append] at hcomes

end Process

end

/-- **Bridges inside bridges are flat.** Let a process be bridged by itself, in a row with a
continuation, and inside another process, which waits for its bridge and goes on with the same
continuation; all in the same machine and with the same happenings, whatever they are.

*Until the process ends,* the others are under way and have done the same, but for reports.

*If it fails,* the others fail in the same poll, with this failure and with the failure wrapped
once. They have done nothing else, whatever the continuation is.

*If it ends with a value,* the others go on in the same poll, with the bridge of what the
continuation builds from the value. So they have the same result at the same time. In a row, the
continuation builds while the process is still there, with the scopes that it owns; around the
bridge, the process has been dropped by then. So for the bridge of both in a row this is said of
continuations that cannot see the process, and no continuation can that does nothing but build.

*Times.* If the process can have all that it waits for, it comes to an outcome after some
milliseconds. If this is a failure, the others come to theirs after as many. If it is a value and
the continuation can have all that it waits for then, the others come to what the continuation comes
to, and the times add up.

*Levels.* Inside any number of levels a failure is wrapped as many times. Among the failure that is
reported and its sources, the original one is at the depth of the levels. -/
theorem nested_bridges_flatten (who : Party) (outcomes : Channel → Outcome) (c : Process)
    (m : Machine) :
    (∀ k : Value → Plan Process,
      let flat := c.andThen k
      let nested := (awaiting c.bridge).andThen k
      let second (v : Value) := Process.lazy fun _ => (k v).start
      (∀ happenings,
        let solo := c.bridged who outcomes m happenings
        ((∀ outcome, solo.1 ≠ .ended outcome) →
          (∀ outcome, (flat.bridged who outcomes m happenings).1 ≠ .ended outcome ∧
            (nested.bridged who outcomes m happenings).1 ≠ .ended outcome) ∧
          (flat.bridged who outcomes m happenings).2 = solo.2 ∧
          (nested.bridged who outcomes m happenings).2.quiet = solo.2.quiet) ∧
        (∀ e, solo.1 = .ended (.error e) →
          flat.bridged who outcomes m happenings = solo ∧
          Task.Same (nested.bridged who outcomes m happenings)
            (.ended (.error (.asyncFailure e)), solo.2)) ∧
        ∀ v, solo.1 = .ended (.ok v) →
          ∃ earlier allowance later, happenings = earlier ++ .poll allowance :: later ∧
            Task.EndsAt who outcomes (.ready c.bridge.start, m) earlier allowance (.ok v) ∧
            let turned := (c.bridged who outcomes m (earlier ++ [.poll allowance])).2
            let goesOn := after (Task.poll who) outcomes later
              ((Task.ready (second v).bridge.start).poll who turned)
            (c.UnseenBy k m.world → flat.bridged who outcomes m happenings = goesOn) ∧
              Task.Same (nested.bridged who outcomes m happenings) goesOn) ∧
      (c.bridge.start.Available outcomes m.world →
        ∃ outcome ms left, c.bridge.start.ComesTo who outcomes m outcome ms left ∧
          (∀ e, outcome = .error e →
            flat.bridge.start.ComesTo who outcomes m (.error e) ms left ∧
            nested.bridge.start.ComesTo who outcomes m (.error (.asyncFailure e)) ms left) ∧
          ∀ v, outcome = .ok v → (second v).bridge.start.Available outcomes left →
            ∃ outcome' ms' left',
              (∀ m' : Machine, m'.world = left →
                (second v).bridge.start.ComesTo who outcomes m' outcome' ms' left') ∧
              (c.UnseenBy k m.world →
                flat.bridge.start.ComesTo who outcomes m outcome' (ms + ms') left') ∧
              nested.bridge.start.ComesTo who outcomes m outcome' (ms + ms') left')) ∧
    (∀ g : Value → Process, c.UnseenBy (fun v => .done (g v)) m.world) ∧
    ∀ (levels : List (Option (Value → Plan Process))) (e : Failure) (happenings : List Happening),
      let solo := c.bridged who outcomes m happenings
      solo.1 = .ended (.error e) →
      let wrapped := Failure.asyncFailure^[levels.length] e
      Task.Same ((c.nestedIn levels).bridged who outcomes m happenings)
          (.ended (.error wrapped), solo.2) ∧
        (wrapped :: wrapped.sources)[levels.length]? = some e ∧
        wrapped.sources.length = levels.length + e.sources.length := by
  refine ⟨fun k => ⟨fun happenings => ⟨Process.bridged_of_rests k,
    fun e => Process.bridged_of_failed k, fun v hended => ?_⟩, fun havailable => ?_⟩,
    fun g => Process.unseenBy_of_blind (k := fun v => .done (g v)) (fun _ => trivial) c m.world,
    fun levels e happenings hfailed => ⟨Process.same_bridged_nestedIn levels hfailed,
      Failure.sources_wrapped levels.length e⟩⟩
  · obtain ⟨earlier, allowance, later, rfl, hends⟩ :=
      Task.exists_endsAt (s := (.ready c.bridge.start, m)) nofun hended
    exact ⟨earlier, allowance, later, rfl, hends,
      fun hunseen => hends.continued (Process.continued_bridge who k c m) hunseen later,
      Process.same_bridged_of_endsAt k hends later⟩
  · obtain ⟨hflat, hnested⟩ := Process.comesTo_next who k havailable
    have hcomes := havailable.comesTo who
    generalize m.world.carryOut (c.bridge.start.carriedOut outcomes []) = first at *
    obtain ⟨⟨outcome, waits⟩, left⟩ := first
    refine ⟨outcome, elapsed waits, left, hcomes, fun e he => ?_, fun v hv hsecond => ?_⟩
    · subst he
      exact ⟨hflat nofun trivial, hnested trivial⟩
    · subst hv
      refine ⟨_, _, _, fun m' hm' => ?_, fun hunseen => hflat (fun _ _ => hunseen) hsecond,
        hnested hsecond⟩
      subst hm'
      exact hsecond.comesTo who

/-- A pause inside, and a pause after it: together they take fifty milliseconds, in a row as well as
around the bridge. A process that fails with a deferred operation, inside two levels: its failure is
wrapped twice. -/
theorem nested_bridges_of_pauses :
    let pausing (ms : Nat) (v : Value) := awaiting ⟨[], .sleep ms [] (.settled (.ok v))⟩
    let k (_ : Value) : Plan Process := .done (pausing 20 (.str "b"))
    let m : Machine := { world := { channels := #[.open] } }
    (∃ left, ((pausing 30 (.str "a")).andThen k).bridge.start.ComesTo .foreground
        (fun _ => .error .abandoned) m (.ok (.str "b")) 50 left ∧
      ((awaiting (pausing 30 (.str "a")).bridge).andThen k).bridge.start.ComesTo .foreground
        (fun _ => .error .abandoned) m (.ok (.str "b")) 50 left) ∧
    (((awaiting (.deferred ⟨0⟩)).nestedIn [none, some k]).bridged .foreground
        (fun _ => .error .abandoned) m [.poll 8, .settle ⟨0⟩, .poll 8]).1 =
      .ended (.error (.asyncFailure (.asyncFailure (.asyncFailure .abandoned)))) := by
  intro pausing k m
  constructor
  · obtain ⟨hflat, hunseen, -⟩ := nested_bridges_flatten .foreground (fun _ => .error .abandoned)
      (pausing 30 (.str "a")) m
    obtain ⟨outcome, ms, left, hcomes, -, hvalue⟩ := (hflat k).2 trivial
    have hpause (ms : Nat) (v : Value) (m : Machine) :
        ∃ left, (pausing ms v).bridge.start.ComesTo .foreground (fun _ => .error .abandoned) m
          (.ok v) ms left := by
      have havailable : (pausing ms v).bridge.start.Available (fun _ => .error .abandoned)
        m.world := trivial
      exact ⟨_, havailable.comesTo .foreground⟩
    obtain ⟨_, hfirst⟩ := hpause 30 (.str "a") m
    obtain ⟨rfl, rfl, -⟩ := hcomes.unique hfirst
    obtain ⟨outcome', ms', left', hk, hrow, hnested⟩ := hvalue (.str "a") rfl trivial
    obtain ⟨_, hsecond⟩ := hpause 20 (.str "b") { m with world := left }
    obtain ⟨rfl, rfl, -⟩ := (hk _ rfl).unique hsecond
    exact ⟨left', hrow (hunseen fun _ => pausing 20 (.str "b")), hnested⟩
  · obtain ⟨-, -, hlevels⟩ := nested_bridges_flatten .foreground (fun _ => .error .abandoned)
      (awaiting (.deferred ⟨0⟩)) m
    have hfailed : ((awaiting (.deferred ⟨0⟩)).bridged .foreground (fun _ => .error .abandoned) m
        [.poll 8, .settle ⟨0⟩, .poll 8]).1 = .ended (.error (.asyncFailure .abandoned)) := rfl
    exact ((hlevels [none, some k] _ _ hfailed).1.task.ended_iff _).mpr rfl

/-- A continuation that asks whether a scope is open that the process keeps to its end: in a row the
process is still there, and around the bridge it has been dropped. -/
example :
    let c : Process := .foldHolding [.scope ⟨0⟩] [] .null fun acc _ => .ended acc
    let k (_ : Value) : Plan Process :=
      .act (.isOpen ⟨0⟩) fun (isOpen : Bool) => .done (.pure (.bool isOpen))
    let m : Machine := { world := { openScopes := [⟨0⟩] } }
    let bridged (p : Process) := (p.bridged .foreground (fun _ => .error .abandoned) m [.poll 8]).1
    bridged (c.andThen k) = .ended (.ok (.bool true)) ∧
      bridged ((awaiting c.bridge).andThen k) = .ended (.ok (.bool false)) :=
  ⟨rfl, rfl⟩

end Effects
