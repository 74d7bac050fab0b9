import Effects.Proofs.Driving
import Effects.Schedule

/-!
# Polling an operation

An operation that is polled goes on as far as it can and then rests, until somebody polls it again.
Between two polls time passes and deferred operations are settled, in whatever order: a list of
`Happening`s. None of this has a say in what becomes of the operation. `Operation.carriedOut` is the
operation in one piece, without rests; its pauses and the deferred outcomes it waits for are counted
along the way. `Task.Heads` relates a polled operation to this: whatever happens, it is on its way
to the same outcome, by the same waits in the same order, some of which lie behind it.

The clock and the allowance of a turn decide when the operation gets there. If time passes only
while it pauses, and never beyond the end of the pause, it gets there when its pauses add up. And it
gets there for sure, since every poll that finds the present wait over completes a wait.
-/

namespace Effects

/-! ## Operations in one piece -/

/-- What an operation waits for. -/
inductive Wait where
  /-- The end of a pause. -/
  | pause (ms : Nat)
  /-- The outcome of a deferred operation. -/
  | outcome (channel : Channel)

/-- The milliseconds that pass by themselves. -/
def Wait.ms : Wait → Nat
  | pause ms => ms
  | outcome _ => 0

/-- The milliseconds that pass by themselves in several waits, one after the other. -/
def elapsed : List Wait → Nat
  | [] => 0
  | wait :: waits => wait.ms + elapsed waits

@[simp]
theorem elapsed_append (waits more : List Wait) :
    elapsed (waits ++ more) = elapsed waits + elapsed more := by
  induction waits with
  | nil => simp [elapsed]
  | cons wait waits ih => simp [elapsed, ih, Nat.add_assoc]

@[simp]
theorem elapsed_pause (ms : Nat) : elapsed [.pause ms] = ms := rfl

@[simp]
theorem elapsed_outcome (channel : Channel) : elapsed [.outcome channel] = 0 := rfl

/-- After one more wait, more waits have been counted. -/
theorem length_lt_of_one_more {waits more : List Wait} {wait : Wait}
    (h : waits ++ [wait] <+: more) : waits.length < more.length := by
  have hle := h.length_le
  rw [List.length_append, List.length_singleton] at hle
  exact hle

namespace Operation

variable (outcomes : Channel → Outcome)

/-- The operation in one piece, after some waits: pauses take no time, and every deferred operation
has the outcome assigned to it. The result is the outcome, and all waits in order. -/
def carriedOut : Operation → List Wait → Plan (Outcome × List Wait)
  | .settled outcome, waits => .done (outcome, waits)
  | .act a next, waits => .act a fun answer => (next answer).carriedOut waits
  | .sleep ms _ next, waits => next.carriedOut (waits ++ [.pause ms])
  | .receive channel _ next, waits =>
    (next (outcomes channel)).carriedOut (waits ++ [.outcome channel])

/-- Each outcome that the operation waits for can be had when it comes to that: it has been sent, or
the receiving half is still there. -/
def Available : Operation → World → Prop
  | .settled _, _ => True
  | .act a next, w => (next (w.perform a).1).Available (w.perform a).2
  | .sleep _ _ next, w => next.Available w
  | .receive channel _ next, w =>
    (w.channelState channel = .open ∨ w.channelState channel = .sent (outcomes channel)) ∧
      (next (outcomes channel)).Available w

/-- The operation, in the world, is on its way to the result; some waits lie behind it. -/
structure Heads (result : Outcome × List Wait) (op : Operation) (w : World) (waits : List Wait) :
    Prop where
  available : op.Available outcomes w
  arrives : (w.carryOut (op.carriedOut outcomes waits)).1 = result

end Operation

/-! ## What cannot be told apart -/

namespace World

/-- A world without what no act asks for: what has been reported, and how far the deferred
operations have come. -/
def unheard (w : World) : World := { w with events := #[], channels := #[] }

theorem eq_of_unheard_eq {w w' : World} (h : w.unheard = w'.unheard) :
    ∃ events channels, w' = { w with events := events, channels := channels } := by
  obtain ⟨⟩ := w
  obtain ⟨⟩ := w'
  simp only [unheard, World.mk.injEq] at h
  obtain ⟨rfl, rfl, rfl, rfl, -, rfl, rfl, -, rfl⟩ := h
  exact ⟨_, _, rfl⟩

theorem unheard_releaseOne (w : World) (events : Array Event) (channels : Array ChannelState)
    (claim : Claim) :
    (({ w with events := events, channels := channels } : World).releaseOne claim).unheard =
      (w.releaseOne claim).unheard := by
  cases claim with
  | scope token => rfl
  | receiver channel =>
    simp only [releaseOne]
    split <;> split <;> rfl

theorem unheard_release {w w' : World} (h : w.unheard = w'.unheard) (claims : List Claim) :
    (w.release claims).unheard = (w'.release claims).unheard := by
  induction claims generalizing w w' with
  | nil => exact h
  | cons claim claims ih =>
    obtain ⟨events, channels, rfl⟩ := eq_of_unheard_eq h
    exact ih (unheard_releaseOne w events channels claim).symm

/-- What an act answers depends neither on reports nor on deferred operations. -/
theorem unheard_perform {w w' : World} (h : w.unheard = w'.unheard) (a : Act) :
    (w.perform a).1 = (w'.perform a).1 ∧ (w.perform a).2.unheard = (w'.perform a).2.unheard := by
  cases a with
  | release claims => exact ⟨rfl, unheard_release h claims⟩
  | attempt store request =>
    obtain ⟨events, channels, rfl⟩ := eq_of_unheard_eq h
    simp only [perform]
    cases w.stores.lookup store <;> exact ⟨rfl, rfl⟩
  | _ =>
    obtain ⟨events, channels, rfl⟩ := eq_of_unheard_eq h
    exact ⟨rfl, rfl⟩

/-- Nor does the result of a plan. -/
theorem carryOut_unheard {α : Type} (plan : Plan α) {w w' : World} (h : w.unheard = w'.unheard) :
    (w.carryOut plan).1 = (w'.carryOut plan).1 ∧
      (w.carryOut plan).2.unheard = (w'.carryOut plan).2.unheard := by
  induction plan generalizing w w' with
  | done a => exact ⟨rfl, h⟩
  | act a next ih =>
    obtain ⟨hanswer, hworld⟩ := unheard_perform h a
    rw [carryOut_act, carryOut_act, hanswer]
    exact ih _ hworld

/-! ## Deferred operations -/

theorem channelState_congr {w w' : World} (h : w.channels = w'.channels) (channel : Channel) :
    w.channelState channel = w'.channelState channel := by
  rw [channelState, channelState, h]

/-- The state of an open channel can be replaced, without any effect on other channels. -/
theorem channelState_set {w : World} {channel : Channel} (hopen : w.channelState channel = .open)
    (state : ChannelState) (other : Channel) :
    ({ w with channels := w.channels.setIfInBounds channel.id state } : World).channelState other =
      if other = channel then state else w.channelState other := by
  have hbound : channel.id < w.channels.size := by
    rcases Nat.lt_or_ge channel.id w.channels.size with hlt | hge
    · exact hlt
    · rw [channelState, Array.getElem?_eq_none hge] at hopen
      cases hopen
  by_cases heq : other = channel
  · subst heq
    simp [channelState, hbound]
  · have hid : channel.id ≠ other.id := fun hid => heq (congrArg Channel.mk hid.symm)
    simp [channelState, heq, Array.getElem?_setIfInBounds_ne hid]

end World

/-- What is left of a channel when its receiving half is given up. -/
def ChannelState.givenUp : ChannelState → ChannelState
  | .open => .closed
  | state => state

theorem ChannelState.givenUp_of_ne_open {state : ChannelState} (h : state ≠ .open) :
    state.givenUp = state := by
  cases state with
  | «open» => exact (h rfl).elim
  | sent | closed => rfl

theorem ChannelState.givenUp_ne_open (state : ChannelState) : state.givenUp ≠ .open := by
  cases state <;> nofun

namespace World

theorem channelState_releaseOne (w : World) (claim : Claim) (channel : Channel) :
    (w.releaseOne claim).channelState channel =
      if claim = .receiver channel then (w.channelState channel).givenUp
      else w.channelState channel := by
  cases claim with
  | scope token => rfl
  | receiver given =>
    have hclaim : Claim.receiver given = .receiver channel ↔ channel = given :=
      ⟨fun h => (Claim.receiver.inj h).symm, fun h => h ▸ rfl⟩
    simp only [releaseOne, hclaim]
    split
    · rename_i hopen
      simp only [channelState_set hopen]
      split
      · rename_i heq
        rw [heq, hopen, ChannelState.givenUp]
      · rfl
    · rename_i hopen
      split
      · rename_i heq
        exact (ChannelState.givenUp_of_ne_open (heq ▸ hopen)).symm
      · rfl

theorem channelState_release (w : World) (claims : List Claim) (channel : Channel) :
    (w.release claims).channelState channel =
      if .receiver channel ∈ claims then (w.channelState channel).givenUp
      else w.channelState channel := by
  induction claims generalizing w with
  | nil => rfl
  | cons claim claims ih =>
    have hfirst := channelState_releaseOne w claim channel
    refine (ih (w.releaseOne claim)).trans ?_
    rw [hfirst]
    by_cases hclaim : claim = .receiver channel
    · simp [hclaim, ChannelState.givenUp_of_ne_open (ChannelState.givenUp_ne_open _)]
    · simp [hclaim, Ne.symm hclaim]

/-- All that an act can do to a deferred operation is to give up the receiving half. -/
theorem channelState_perform (a : Act) (channel : Channel) :
    (∀ w : World, (w.perform a).2.channelState channel = w.channelState channel) ∨
      ∀ w : World, (w.perform a).2.channelState channel = (w.channelState channel).givenUp := by
  cases a with
  | release claims =>
    by_cases hmem : .receiver channel ∈ claims
    · exact .inr fun w => (channelState_release w claims channel).trans (if_pos hmem)
    · exact .inl fun w => (channelState_release w claims channel).trans (if_neg hmem)
  | attempt store request =>
    refine .inl fun w => channelState_congr ?_ channel
    simp only [perform]
    cases w.stores.lookup store <;> rfl
  | _ => exact .inl fun w => rfl

/-- What has been sent can be had for good, and what has been given up is gone for good. -/
theorem channelState_perform_of_ne_open {w : World} {channel : Channel}
    (h : w.channelState channel ≠ .open) (a : Act) :
    (w.perform a).2.channelState channel = w.channelState channel := by
  rcases channelState_perform a channel with hsame | hgiven
  · exact hsame w
  · exact (hgiven w).trans (ChannelState.givenUp_of_ne_open h)

/-- The second world is the first one after some more outcomes have been sent, out of those that are
assigned to the deferred operations. Reports do not matter. -/
structure Settles (outcomes : Channel → Outcome) (w w' : World) : Prop where
  unheard : w.unheard = w'.unheard
  channels : ∀ channel, w'.channelState channel = w.channelState channel ∨
    w'.channelState channel = .sent (outcomes channel)

namespace Settles

variable {outcomes : Channel → Outcome} {w w' : World}

theorem refl (w : World) : Settles outcomes w w := ⟨rfl, fun _ => .inl rfl⟩

theorem perform (h : Settles outcomes w w') (a : Act) :
    Settles outcomes (w.perform a).2 (w'.perform a).2 := by
  refine ⟨(unheard_perform h.unheard a).2, fun channel => ?_⟩
  rcases channelState_perform a channel with hsame | hgiven
  · rw [hsame, hsame]
    exact h.channels channel
  · rw [hgiven, hgiven]
    rcases h.channels channel with hstate | hsent
    · exact .inl (congrArg _ hstate)
    · exact .inr (congrArg _ hsent)

end Settles

end World

/-! ## On the way to a result -/

namespace Operation

variable {outcomes : Channel → Outcome}

/-- An operation is carried out after another one that it goes on with. -/
theorem carriedOut_andThen (held : List Claim) (next : Outcome → Operation) (op : Operation)
    (waits : List Wait) :
    (op.andThen held next).carriedOut outcomes waits =
      (op.carriedOut outcomes waits).bind fun (outcome, waits) =>
        (next outcome).carriedOut outcomes waits := by
  induction op generalizing waits with
  | settled outcome => rfl
  | act a rest ih => exact congrArg (Plan.act a) (funext fun answer => ih answer waits)
  | sleep ms own rest ih => exact ih _
  | receive channel own rest ih => exact ih _ _

/-- Waits are only added. -/
theorem prefix_carriedOut (op : Operation) (w : World) (waits : List Wait) :
    waits <+: (w.carryOut (op.carriedOut outcomes waits)).1.2 := by
  induction op generalizing w waits with
  | settled outcome => exact List.prefix_refl waits
  | act a rest ih => exact ih _ _ _
  | sleep ms own rest ih => exact (List.prefix_append _ _).trans (ih w (waits ++ [.pause ms]))
  | receive channel own rest ih =>
    exact (List.prefix_append _ _).trans (ih _ w (waits ++ [.outcome channel]))

theorem Available.settles {op : Operation} {w w' : World} (h : op.Available outcomes w)
    (hw : World.Settles outcomes w w') : op.Available outcomes w' := by
  induction op generalizing w w' with
  | settled outcome => trivial
  | act a rest ih =>
    show ((rest (w'.perform a).1).Available outcomes (w'.perform a).2)
    rw [← (World.unheard_perform hw.unheard a).1]
    exact ih _ h (hw.perform a)
  | sleep ms own rest ih => exact ih h hw
  | receive channel own rest ih =>
    refine ⟨?_, ih _ h.2 hw⟩
    rcases hw.channels channel with hsame | hsent
    · rw [hsame]
      exact h.1
    · exact .inr hsent

namespace Heads

variable {result : Outcome × List Wait} {w w' : World} {waits : List Wait}

/-- Settling a deferred operation, early or late, does not make a difference. -/
theorem settles {op : Operation} (h : op.Heads outcomes result w waits)
    (hw : World.Settles outcomes w w') : op.Heads outcomes result w' waits :=
  ⟨h.available.settles hw, (World.carryOut_unheard _ hw.unheard).1 ▸ h.arrives⟩

theorem waits_prefix {op : Operation} (h : op.Heads outcomes result w waits) :
    waits <+: result.2 :=
  h.arrives ▸ op.prefix_carriedOut w waits

theorem settled {outcome : Outcome} (h : (settled outcome).Heads outcomes result w waits) :
    result = (outcome, waits) :=
  h.arrives.symm

theorem act {a : Act} {next : a.Answer → Operation}
    (h : (act a next).Heads outcomes result w waits) :
    (next (w.perform a).1).Heads outcomes result (w.perform a).2 waits :=
  ⟨h.available, h.arrives⟩

theorem sleep {ms : Nat} {held : List Claim} {next : Operation}
    (h : (sleep ms held next).Heads outcomes result w waits) :
    next.Heads outcomes result w (waits ++ [.pause ms]) :=
  ⟨h.available, h.arrives⟩

theorem receive {channel : Channel} {held : List Claim} {next : Outcome → Operation}
    (h : (receive channel held next).Heads outcomes result w waits) :
    (next (outcomes channel)).Heads outcomes result w (waits ++ [.outcome channel]) :=
  ⟨h.available.2, h.arrives⟩

/-- No outcome but the one assigned to the channel is received. -/
theorem sent_eq {channel : Channel} {held : List Claim} {next : Outcome → Operation}
    (h : (Operation.receive channel held next).Heads outcomes result w waits) {outcome : Outcome}
    (hsent : w.channelState channel = .sent outcome) : outcome = outcomes channel := by
  rcases h.available.1 with hopen | hassigned
  · rw [hsent] at hopen
    cases hopen
  · rw [hsent] at hassigned
    exact ChannelState.sent.inj hassigned

end Heads

end Operation

/-! ## Polls -/

/-- An operation that was followed as far as it went, as a task. -/
def Progress.task : Progress → Task
  | ended outcome => .ended outcome
  | resting r => .resting r

namespace Task

/-- Polls a task: a party follows it as far as it goes. A task that has ended is left alone. -/
def poll (who : Party) (m : Machine) : Task → Task × Machine
  | .ready op => (m.follow who op).map Progress.task id
  | .resting r => (m.resume who r).map Progress.task id
  | .ended outcome => (.ended outcome, m)

/-- Whether a poll finds that the task can go on. -/
def isDue (m : Machine) : Task → Bool
  | .ready _ => true
  | .resting r => m.isDue (.operation r)
  | .ended _ => false

theorem isDue_listening {m : Machine} {channel : Channel} {outcome : Outcome}
    (h : m.world.channelState channel = .sent outcome) (noticed : Bool) (held : List Claim)
    (next : Outcome → Operation) :
    isDue m (.resting (.listening channel noticed held next)) = true := by
  simp only [isDue, Machine.isDue, h]

theorem isDue_listening_eq_false {m : Machine} {channel : Channel}
    (h : ∀ outcome, m.world.channelState channel ≠ .sent outcome) (noticed : Bool)
    (held : List Claim) (next : Outcome → Operation) :
    isDue m (.resting (.listening channel noticed held next)) = false := by
  simp only [isDue, Machine.isDue]

/-- The instant at which a task has waited long enough, if its wait began at `began`. -/
def latest (began : Nat) : Task → Nat
  | .resting (.asleep deadline _ _ _) => deadline
  | _ => began

/-- The task, in the world, is on its way to the result. Some waits lie behind it, and its present
wait began at the instant `began`. -/
inductive Heads (outcomes : Channel → Outcome) (result : Outcome × List Wait) (w : World)
    (began : Nat) : Task → List Wait → Prop where
  | ready {op : Operation} {waits : List Wait} (h : op.Heads outcomes result w waits) :
    Heads outcomes result w began (.ready op) waits
  | asleep {deadline : Nat} {ticket : Option Nat} {held : List Claim} {next : Operation}
    {waits : List Wait} (hle : began ≤ deadline)
    (h : (Operation.sleep (deadline - began) held next).Heads outcomes result w waits) :
    Heads outcomes result w began (.resting (.asleep deadline ticket held next)) waits
  | listening {channel : Channel} {noticed : Bool} {held : List Claim} {next : Outcome → Operation}
    {waits : List Wait} (h : (Operation.receive channel held next).Heads outcomes result w waits) :
    Heads outcomes result w began (.resting (.listening channel noticed held next)) waits
  | ended {outcome : Outcome} {waits : List Wait} (h : result = (outcome, waits)) :
    Heads outcomes result w began (.ended outcome) waits

variable {outcomes : Channel → Outcome} {result : Outcome × List Wait}

theorem Heads.waits_prefix {w : World} {began : Nat} {task : Task} {waits : List Wait}
    (h : task.Heads outcomes result w began waits) : waits <+: result.2 := by
  cases h with
  | ready h | asleep _ h | listening h => exact h.waits_prefix
  | ended h => exact h ▸ List.prefix_refl waits

theorem Heads.outcome_eq {w : World} {began : Nat} {task : Task} {waits : List Wait}
    (h : task.Heads outcomes result w began waits) {outcome : Outcome}
    (hended : task = .ended outcome) : outcome = result.1 := by
  subst hended
  cases h with
  | ended h => rw [h]

theorem Heads.settles {w w' : World} {began : Nat} {task : Task} {waits : List Wait}
    (h : task.Heads outcomes result w began waits) (hw : World.Settles outcomes w w') :
    task.Heads outcomes result w' began waits := by
  cases h with
  | ready h => exact .ready (h.settles hw)
  | asleep hle h => exact .asleep hle (h.settles hw)
  | listening h => exact .listening (h.settles hw)
  | ended h => exact .ended h

/-- What holds when a task that had some waits behind it has been polled in `m`: it stops on its
way. It has taken its allowance for the waits that it completed, and unless nothing is left of that,
it cannot go on. -/
structure Stops (outcomes : Channel → Outcome) (result : Outcome × List Wait) (began : Nat)
    (m : Machine) (waits : List Wait) (polled : Task × Machine) (waits' : List Wait) : Prop where
  heads : polled.1.Heads outcomes result polled.2.world began waits'
  now : polled.2.now = m.now
  counted : waits'.length + polled.2.allowance = waits.length + m.allowance
  behind : waits <+: waits'
  halted : polled.2.allowance = 0 ∨ polled.1.isDue polled.2 = false

/-- A poll that finds that the task cannot go on leaves it where it is. -/
structure Idles (outcomes : Channel → Outcome) (result : Outcome × List Wait) (who : Party)
    (m : Machine) (began : Nat) (task : Task) (waits : List Wait) : Prop
    extends Stops outcomes result began m waits (task.poll who m) waits where
  waiting : m.allowance = 0 ∨ task.isDue m = false
  latest : (task.poll who m).1.latest began = task.latest began

/-- A poll that finds that the task can go on. It goes on as it would have done as soon as its wait
was over. -/
structure GoesOn (outcomes : Channel → Outcome) (result : Outcome × List Wait) (who : Party)
    (m : Machine) (began : Nat) (task : Task) (waits waits' : List Wait) : Prop
    extends Stops outcomes result m.now m waits (task.poll who m) waits' where
  due : task.isDue m = true
  time : elapsed waits' + began = elapsed waits + task.latest began
  further : ∀ r, task = .resting r → waits.length < waits'.length

/-- A wait has been completed before. -/
theorem Stops.of_spend {began : Nat} {m : Machine} {waits : List Wait} {wait : Wait}
    {polled : Task × Machine} {waits' : List Wait} (hallowance : m.allowance ≠ 0)
    (h : Stops outcomes result began m.spend (waits ++ [wait]) polled waits') :
    Stops outcomes result began m waits polled waits' where
  heads := h.heads
  now := h.now
  counted := by
    have hcounted := h.counted
    simp only [Machine.spend, List.length_append, List.length_singleton] at hcounted
    omega
  behind := (List.prefix_append _ _).trans h.behind
  halted := h.halted

end Task

namespace Machine

variable {outcomes : Channel → Outcome} {result : Outcome × List Wait}

@[simp]
theorem world_postpone (m : Machine) (who : Party) : (m.postpone who).world = m.world := by
  unfold postpone
  split <;> rfl

@[simp]
theorem now_postpone (m : Machine) (who : Party) : (m.postpone who).now = m.now := by
  unfold postpone
  split <;> rfl

@[simp]
theorem allowance_postpone (m : Machine) (who : Party) :
    (m.postpone who).allowance = m.allowance := by
  unfold postpone
  split <;> rfl

/-- An operation without an allowance rests where it is. -/
theorem stops_postpone (who : Party) {r : Resting} {m : Machine} {began : Nat} {waits : List Wait}
    (hspent : m.allowance = 0) (h : (Task.resting r).Heads outcomes result m.world began waits) :
    Task.Stops outcomes result began m waits (.resting r, m.postpone who) waits where
  heads := by simpa using h
  now := by simp
  counted := by simp
  behind := List.prefix_refl waits
  halted := .inl (by simpa using hspent)

theorem follow_act (m : Machine) (who : Party) (a : Act) (next : a.Answer → Operation) :
    m.follow who (.act a next) =
      { m with world := (m.world.perform a).2 }.follow who (next (m.world.perform a).1) := rfl

/-- An operation that is followed completes waits that take no time, and stops on its way. -/
theorem follow_stops (who : Party) {op : Operation} {m : Machine} {waits : List Wait}
    (h : op.Heads outcomes result m.world waits) :
    ∃ waits', elapsed waits' = elapsed waits ∧ Task.Stops outcomes result m.now m waits
      ((m.follow who op).map Progress.task id) waits' := by
  induction op generalizing m waits with
  | settled outcome => exact ⟨waits, rfl, .ended h.settled, rfl, rfl, List.prefix_refl _, .inr rfl⟩
  | act a next ih =>
    rw [follow_act]
    obtain ⟨waits', htime, hstops⟩ := ih _ (m := { m with world := (m.world.perform a).2 }) h.act
    exact ⟨waits', htime, hstops.heads, hstops.now, hstops.counted, hstops.behind, hstops.halted⟩
  | sleep ms held next ih =>
    have hwait : (Operation.sleep (m.now + ms - m.now) held next).Heads outcomes result m.world
        waits := by
      rwa [Nat.add_sub_cancel_left]
    rw [follow]
    by_cases hspent : m.allowance = 0
    · rw [if_pos hspent]
      exact ⟨waits, rfl, stops_postpone who hspent (.asleep (Nat.le_add_right _ _) hwait)⟩
    · rw [if_neg hspent]
      by_cases hms : ms = 0
      · rw [if_pos hms]
        obtain ⟨waits', htime, hstops⟩ := ih (m := m.spend) h.sleep
        exact ⟨waits', by simpa [hms] using htime, hstops.of_spend hspent⟩
      · rw [if_neg hms]
        refine ⟨waits, rfl, .asleep (Nat.le_add_right _ _) hwait, rfl, rfl, List.prefix_refl _,
          .inr ?_⟩
        simp only [Prod.map, Progress.task, id, Task.isDue, isDue, decide_eq_false_iff_not]
        omega
  | receive channel held next ih =>
    rw [follow]
    by_cases hspent : m.allowance = 0
    · rw [if_pos hspent]
      exact ⟨waits, rfl, stops_postpone who hspent (.listening h)⟩
    · rw [if_neg hspent]
      split
      · rename_i outcome hsent
        obtain rfl := h.sent_eq hsent
        obtain ⟨waits', htime, hstops⟩ := ih _ (m := m.spend) h.receive
        exact ⟨waits', by simpa using htime, hstops.of_spend hspent⟩
      · rename_i hopen
        have hhalted := Task.isDue_listening_eq_false hopen
        exact ⟨waits, rfl, .listening h, rfl, rfl, List.prefix_refl _, .inr (hhalted ..)⟩

section

variable (who : Party) {m : Machine} {began : Nat} {waits : List Wait}

theorem idles_of_spent {r : Resting} (hspent : m.allowance = 0)
    (h : (Task.resting r).Heads outcomes result m.world began waits) :
    Task.Idles outcomes result who m began (.resting r) waits := by
  have hpoll : (Task.resting r).poll who m = (.resting r, m.postpone who) := by
    rw [Task.poll, resume.eq_def, if_pos hspent]
    rfl
  exact ⟨hpoll ▸ stops_postpone who hspent h, .inl hspent, by rw [hpoll]⟩

/-- A pause that is polled goes on if it is over. -/
theorem poll_asleep {deadline : Nat} {ticket : Option Nat} {held : List Claim} {next : Operation}
    (hle : began ≤ deadline)
    (h : (Operation.sleep (deadline - began) held next).Heads outcomes result m.world waits) :
    let task : Task := .resting (.asleep deadline ticket held next)
    Task.Idles outcomes result who m began task waits ∨
      ∃ waits', Task.GoesOn outcomes result who m began task waits waits' := by
  intro task
  by_cases hspent : m.allowance = 0
  · exact .inl (idles_of_spent who hspent (.asleep hle h))
  by_cases hdue : deadline ≤ m.now
  · have hpoll : task.poll who m = (m.spend.follow who next).map Progress.task id := by
      rw [Task.poll, resume.eq_def, if_neg hspent]
      simp only [if_pos hdue]
    obtain ⟨waits', htime, hstops⟩ := follow_stops who (m := m.spend) h.sleep
    refine .inr ⟨waits', hpoll ▸ hstops.of_spend hspent, decide_eq_true hdue, ?_,
      fun _ _ => length_lt_of_one_more hstops.behind⟩
    rw [htime, elapsed_append, elapsed_pause]
    show elapsed waits + (deadline - began) + began = elapsed waits + deadline
    omega
  · have hlater : decide (deadline ≤ m.now) = false := decide_eq_false hdue
    obtain ⟨given, m', hpoll, hworld, hnow, hallowance⟩ : ∃ given m',
        task.poll who m = (.resting (.asleep deadline given held next), m') ∧
          m'.world = m.world ∧ m'.now = m.now ∧ m'.allowance = m.allowance := by
      rw [Task.poll, resume.eq_def, if_neg hspent]
      simp only [if_neg hdue]
      cases ticket <;> exact ⟨_, _, rfl, rfl, rfl, rfl⟩
    have hstops : Task.Stops outcomes result began m waits
        (.resting (.asleep deadline given held next), m') waits :=
      ⟨.asleep hle (hworld ▸ h), hnow, by rw [hallowance], List.prefix_refl _,
        .inr (by rwa [← hnow] at hlater)⟩
    exact .inl ⟨hpoll ▸ hstops, .inr hlater, by rw [hpoll]; rfl⟩

/-- A wait for a deferred outcome that is polled goes on if the outcome has been sent. -/
theorem poll_listening {channel : Channel} {noticed : Bool} {held : List Claim}
    {next : Outcome → Operation}
    (h : (Operation.receive channel held next).Heads outcomes result m.world waits) :
    let task : Task := .resting (.listening channel noticed held next)
    Task.Idles outcomes result who m began task waits ∨
      ∃ waits', Task.GoesOn outcomes result who m began task waits waits' := by
  intro task
  by_cases hspent : m.allowance = 0
  · exact .inl (idles_of_spent who hspent (.listening h))
  by_cases hsent : ∃ outcome, m.world.channelState channel = .sent outcome
  · obtain ⟨outcome, hsent⟩ := hsent
    obtain rfl := h.sent_eq hsent
    have hpoll : task.poll who m =
        (m.spend.follow who (next (outcomes channel))).map Progress.task id := by
      rw [Task.poll, resume.eq_def, if_neg hspent]
      simp only [hsent]
    obtain ⟨waits', htime, hstops⟩ := follow_stops who (m := m.spend) h.receive
    refine .inr ⟨waits', hpoll ▸ hstops.of_spend hspent, Task.isDue_listening hsent .., ?_,
      fun _ _ => length_lt_of_one_more hstops.behind⟩
    rw [htime, elapsed_append, elapsed_outcome]
    rfl
  · have hopen : ∀ outcome, m.world.channelState channel ≠ .sent outcome := not_exists.mp hsent
    have hlater := Task.isDue_listening_eq_false hopen
    have hpoll : task.poll who m = (.resting (.listening channel true held next), m) := by
      rw [Task.poll, resume.eq_def, if_neg hspent]
      simp only
      rfl
    have hstops : Task.Stops outcomes result began m waits
        (.resting (.listening channel true held next), m) waits :=
      ⟨.listening h, rfl, rfl, List.prefix_refl _, .inr (hlater ..)⟩
    exact .inl ⟨hpoll ▸ hstops, .inr (hlater ..), by rw [hpoll]; rfl⟩

/-- A task that is polled idles or goes on. -/
theorem poll_cases {task : Task} (h : task.Heads outcomes result m.world began waits) :
    Task.Idles outcomes result who m began task waits ∨
      ∃ waits', Task.GoesOn outcomes result who m began task waits waits' := by
  cases h with
  | ready h =>
    obtain ⟨waits', htime, hstops⟩ := follow_stops who h
    exact .inr ⟨waits', hstops, rfl, congrArg (· + began) htime, nofun⟩
  | asleep hle h => exact poll_asleep who hle h
  | listening h => exact poll_listening who h
  | ended h => exact .inl ⟨⟨.ended h, rfl, rfl, List.prefix_refl _, .inr rfl⟩, .inr rfl, rfl⟩

end

/-- The turn of a background task is a poll with the allowance of a turn. -/
theorem runTask_eq_poll {m : Machine} {id : Nat} {task : Task} (htask : m.tasks[id]? = some task)
    (hrests : ∀ outcome, task ≠ .ended outcome) :
    m.runTask id =
      { (task.poll (.task id) m.beginTurn).2 with
        tasks := (task.poll (.task id) m.beginTurn).2.tasks.setIfInBounds id
          (task.poll (.task id) m.beginTurn).1 } := by
  have hset : ∀ polled : Progress × Machine, polled.2.setTask id polled.1 =
      { polled.2 with tasks := polled.2.tasks.setIfInBounds id polled.1.task } := by
    rintro ⟨outcome | r, m⟩ <;> rfl
  rw [runTask, htask]
  cases task with
  | ready op => exact hset _
  | resting r => exact hset _
  | ended outcome => exact (hrests outcome rfl).elim

@[simp]
theorem world_enqueue (m : Machine) (id : Nat) : (m.enqueue id).world = m.world := by
  unfold enqueue
  split <;> rfl

@[simp]
theorem now_enqueue (m : Machine) (id : Nat) : (m.enqueue id).now = m.now := by
  unfold enqueue
  split <;> rfl

/-- When time passes, nothing else happens. -/
theorem world_advanceTo (m : Machine) (instant : Nat) :
    (m.advanceTo instant).world = m.world ∧ (m.advanceTo instant).now = instant := by
  have henqueue : ∀ (ids : List Nat) (m : Machine),
      (ids.foldl enqueue m).world = m.world ∧ (ids.foldl enqueue m).now = m.now := by
    intro ids
    induction ids with
    | nil => exact fun m => ⟨rfl, rfl⟩
    | cons id ids ih => exact fun m => by simpa using ih (m.enqueue id)
  exact henqueue _ _

/-- What sending an outcome does to the world. -/
theorem world_send (m : Machine) (channel : Channel) (outcome : Outcome) :
    (m.send channel outcome).2.now = m.now ∧
      (m.world.channelState channel = .open ∧ (m.send channel outcome).2.world =
          { m.world with channels := m.world.channels.setIfInBounds channel.id (.sent outcome) } ∨
        m.world.channelState channel ≠ .open ∧ (m.send channel outcome).2.world = m.world) := by
  unfold send
  split
  · rename_i hopen
    simp only
    split
    · exact ⟨by simp, .inl ⟨hopen, by simp⟩⟩
    · exact ⟨rfl, .inl ⟨hopen, rfl⟩⟩
  · rename_i hopen
    exact ⟨rfl, .inr ⟨hopen, rfl⟩⟩

/-- Afterwards the outcome has been sent, or nobody can hear it. -/
theorem channelState_send_ne_open (m : Machine) (channel : Channel) (outcome : Outcome) :
    (m.send channel outcome).2.world.channelState channel ≠ .open := by
  obtain ⟨-, ⟨hopen, hworld⟩ | ⟨hopen, hworld⟩⟩ := m.world_send channel outcome
  · rw [hworld, World.channelState_set hopen, if_pos rfl]
    exact ChannelState.noConfusion
  · rwa [hworld]

/-- The outcome assigned to a deferred operation is sent. -/
theorem settles_send (outcomes : Channel → Outcome) (m : Machine) (channel : Channel) :
    World.Settles outcomes m.world (m.send channel (outcomes channel)).2.world := by
  obtain ⟨-, ⟨hopen, hworld⟩ | ⟨-, hworld⟩⟩ := m.world_send channel (outcomes channel)
  · rw [hworld]
    refine ⟨rfl, fun other => ?_⟩
    rw [World.channelState_set hopen]
    by_cases heq : other = channel
    · exact .inr (by rw [if_pos heq, heq])
    · exact .inl (if_neg heq)
  · rw [hworld]
    exact .refl _

end Machine

/-! ## Whatever happens -/

/-- Something that happens to whoever is polled. -/
inductive Happening where
  /-- A poll, which can complete as many waits as the allowance says. -/
  | poll (allowance : Nat)
  /-- Time passes. -/
  | pass (ms : Nat)
  /-- A deferred operation is settled with the outcome assigned to it. -/
  | settle (channel : Channel)

section

variable {α : Type} (poll : Machine → α → α × Machine) (outcomes : Channel → Outcome)

/-- What becomes of someone who can be polled, and of the machine. -/
def Happening.occur : Happening → α × Machine → α × Machine
  | .poll allowance, s => poll { s.2 with allowance := allowance } s.1
  | .pass ms, s => (s.1, s.2.advanceTo (s.2.now + ms))
  | .settle channel, s => (s.1, (s.2.send channel (outcomes channel)).2)

/-- What has become of them after several happenings, the first one first. -/
def after (happenings : List Happening) (s : α × Machine) : α × Machine :=
  happenings.foldl (fun s happening => happening.occur poll outcomes s) s

end

namespace Task

variable (who : Party) (outcomes : Channel → Outcome)

/-- Time passes only while a task pauses, and never beyond the end of the pause. -/
def Prompt : Happening → Task × Machine → Prop
  | .pass ms, s => ∃ deadline ticket held next,
      s.1 = .resting (.asleep deadline ticket held next) ∧ s.2.now + ms ≤ deadline
  | _, _ => True

/-- All happenings are prompt. -/
def Punctual : List Happening → Task × Machine → Prop
  | [], _ => True
  | happening :: later, s =>
    Prompt happening s ∧ Punctual later (happening.occur (Task.poll who) outcomes s)

/-- Whether the happening is a poll that lets the task go on. -/
def isTurn : Happening → Task × Machine → Bool
  | .poll allowance, s => 0 < allowance && s.1.isDue s.2
  | _, _ => false

/-- The number of polls that let a task go on. -/
def turns : List Happening → Task × Machine → Nat
  | [], _ => 0
  | happening :: later, s =>
    (isTurn happening s).toNat + turns later (happening.occur (Task.poll who) outcomes s)

/-- One for a task that has not been polled yet. -/
def fresh : Task → Nat
  | .ready _ => 1
  | _ => 0

variable {outcomes} {result : Outcome × List Wait} {s : Task × Machine} {began : Nat}
  {waits : List Wait}

theorem fresh_poll (m : Machine) (task : Task) : (task.poll who m).1.fresh = 0 := by
  have htask : ∀ progress : Progress, progress.task.fresh = 0 := fun progress => by
    cases progress <;> rfl
  cases task with
  | ready op => exact htask _
  | resting r => exact htask _
  | ended outcome => rfl

theorem Heads.length_le (h : s.1.Heads outcomes result s.2.world began waits) :
    waits.length ≤ result.2.length :=
  h.waits_prefix.length_le

/-- A task with no wait ahead of it, and which is no longer fresh, has ended. -/
theorem Heads.ended_of_length (h : s.1.Heads outcomes result s.2.world began waits)
    (hfresh : s.1.fresh = 0) (hlength : result.2.length ≤ waits.length) :
    s.1 = .ended result.1 := by
  obtain ⟨task, m⟩ := s
  -- a task that rests has a wait ahead of it
  cases h with
  | ready h => cases hfresh
  | asleep hle h =>
    exact absurd (length_lt_of_one_more h.sleep.waits_prefix) (Nat.not_lt.mpr hlength)
  | listening h =>
    exact absurd (length_lt_of_one_more h.receive.waits_prefix) (Nat.not_lt.mpr hlength)
  | ended h => rw [h]

/-- Nothing that happens takes the task off its way, and a poll that lets it go on brings it nearer
to the end. -/
theorem Heads.occur (h : s.1.Heads outcomes result s.2.world began waits) (happening : Happening) :
    ∃ began' waits', (happening.occur (poll who) outcomes s).1.Heads outcomes result
        (happening.occur (poll who) outcomes s).2.world began' waits' ∧
      (happening.occur (poll who) outcomes s).1.fresh + waits.length + (isTurn happening s).toNat ≤
        s.1.fresh + waits'.length := by
  cases happening with
  | pass ms =>
    refine ⟨began, waits, ?_, Nat.le_refl _⟩
    rw [Happening.occur, (Machine.world_advanceTo _ _).1]
    exact h
  | settle channel =>
    exact ⟨began, waits, h.settles (s.2.settles_send outcomes channel), Nat.le_refl _⟩
  | poll allowance =>
    have hpolled := fresh_poll who { s.2 with allowance := allowance } s.1
    rcases Machine.poll_cases who (m := { s.2 with allowance := allowance }) h with
      ⟨hstops, hidle, -⟩ | ⟨waits', hstops, hdue, -, hfurther⟩
    · have hturn : isTurn (.poll allowance) s = false := by
        rcases hidle with hallowance | hdue
        · exact Bool.and_eq_false_imp.mpr fun hpos => by simp_all
        · exact (congrArg (_ && ·) hdue).trans (Bool.and_false _)
      refine ⟨began, waits, hstops.heads, ?_⟩
      simp only [Happening.occur, hpolled, hturn, Bool.toNat_false]
      omega
    · refine ⟨s.2.now, waits', hstops.heads, ?_⟩
      have hbehind := hstops.behind.length_le
      have hturn := (isTurn (.poll allowance) s).toNat_le
      simp only [Happening.occur, hpolled]
      obtain ⟨task, m⟩ := s
      cases task with
      | ready op => simp only [fresh]; omega
      | resting r => have := hfurther r rfl; simp only [fresh]; omega
      | ended outcome => cases hdue

/-- Whatever happens, the task stays on its way. -/
theorem Heads.after (h : s.1.Heads outcomes result s.2.world began waits)
    (happenings : List Happening) :
    ∃ began' waits', (after (poll who) outcomes happenings s).1.Heads outcomes result
      (after (poll who) outcomes happenings s).2.world began' waits' := by
  induction happenings generalizing s began waits with
  | nil => exact ⟨began, waits, h⟩
  | cons happening later ih =>
    obtain ⟨began', waits', hnext, -⟩ := h.occur who happening
    exact ih hnext

/-- Enough polls that let the task go on bring it to its end. -/
theorem Heads.ended_of_turns (h : s.1.Heads outcomes result s.2.world began waits)
    (happenings : List Happening)
    (hturns : s.1.fresh + result.2.length ≤ waits.length + turns who outcomes happenings s) :
    (Effects.after (poll who) outcomes happenings s).1 = .ended result.1 := by
  induction happenings generalizing s began waits with
  | nil =>
    simp only [turns] at hturns
    have hlength := h.length_le
    exact h.ended_of_length (by omega) (by omega)
  | cons happening later ih =>
    obtain ⟨began', waits', hnext, hnearer⟩ := h.occur who happening
    refine ih (s := happening.occur (poll who) outcomes s) hnext ?_
    simp only [turns] at hturns
    omega

theorem Heads.began_le_latest {task : Task} {w : World}
    (h : task.Heads outcomes result w began waits) : began ≤ task.latest began := by
  cases h with
  | asleep hle h => exact hle
  | ready | listening | ended => exact Nat.le_refl began

theorem latest_le_of_isDue {task : Task} {m : Machine} (hdue : task.isDue m = true)
    (hbegan : began ≤ m.now) : task.latest began ≤ m.now := by
  match task with
  | .resting (.asleep deadline ticket held next) => exact of_decide_eq_true hdue
  | .ready op | .resting (.listening channel noticed held next) | .ended outcome => exact hbegan

/-- The present wait of a task began when the waits behind it add up, and the clock has not gone
beyond its end. -/
structure OnTime (outcomes : Channel → Outcome) (result : Outcome × List Wait) (start : Nat)
    (s : Task × Machine) (waits : List Wait) : Prop where
  heads : s.1.Heads outcomes result s.2.world (start + elapsed waits) waits
  began : start + elapsed waits ≤ s.2.now
  latest : s.2.now ≤ s.1.latest (start + elapsed waits)

/-- A prompt happening leaves the task on time. -/
theorem OnTime.occur {start : Nat} (h : OnTime outcomes result start s waits)
    (happening : Happening) (hprompt : Prompt happening s) :
    ∃ waits', OnTime outcomes result start (happening.occur (poll who) outcomes s) waits' := by
  cases happening with
  | pass ms =>
    obtain ⟨deadline, ticket, held, next, hasleep, hle⟩ := hprompt
    obtain ⟨hworld, hnow⟩ := s.2.world_advanceTo (s.2.now + ms)
    refine ⟨waits, ?_, ?_, ?_⟩
    · exact hworld ▸ h.heads
    · exact hnow ▸ Nat.le_add_right_of_le h.began
    · simp only [Happening.occur, hasleep, hnow, Task.latest]
      exact hle
  | settle channel =>
    have hnow := (s.2.world_send channel (outcomes channel)).1
    refine ⟨waits, h.heads.settles (s.2.settles_send outcomes channel), ?_, ?_⟩
    · exact hnow ▸ h.began
    · exact hnow ▸ h.latest
  | poll allowance =>
    have hbegan := h.began
    rcases Machine.poll_cases who (m := { s.2 with allowance := allowance }) h.heads with
      ⟨hstops, -, hsame⟩ | ⟨waits', hstops, hdue, htime, -⟩
    · refine ⟨waits, hstops.heads, ?_, ?_⟩
      · exact hstops.now ▸ hbegan
      · simp only [Happening.occur, hstops.now, hsame]
        exact h.latest
    · -- the wait is over, and the clock has not gone on since
      have hnow : s.1.latest (start + elapsed waits) = s.2.now :=
        Nat.le_antisymm (latest_le_of_isDue hdue hbegan) h.latest
      have hwaits' : start + elapsed waits' = s.2.now := by omega
      have hheads := hwaits' ▸ hstops.heads
      refine ⟨waits', hheads, ?_, ?_⟩
      · exact hstops.now ▸ Nat.le_of_eq hwaits'
      · exact hstops.now ▸ Nat.le_trans (Nat.le_of_eq hwaits'.symm) hheads.began_le_latest

/-- If all happenings are prompt, a task that ends does so when its pauses add up. -/
theorem OnTime.ended {start : Nat} (h : OnTime outcomes result start s waits)
    (happenings : List Happening) (hpunctual : Punctual who outcomes happenings s)
    {outcome : Outcome} (hended : (after (poll who) outcomes happenings s).1 = .ended outcome) :
    (after (poll who) outcomes happenings s).2.now = start + elapsed result.2 := by
  induction happenings generalizing s waits with
  | nil =>
    obtain ⟨task, m⟩ := s
    obtain rfl : task = .ended outcome := hended
    obtain ⟨hheads, hbegan, hlatest⟩ := h
    cases hheads with
    | ended h =>
      rw [h]
      exact Nat.le_antisymm hlatest hbegan
  | cons happening later ih =>
    obtain ⟨waits', hnext⟩ := h.occur who happening hpunctual.1
    exact ih hnext hpunctual.2 hended

/-- What a task waits for can always come about promptly. -/
theorem OnTime.exists_due {start : Nat} (h : OnTime outcomes result start s waits)
    (hrests : ∀ outcome, s.1 ≠ .ended outcome) :
    s.1.isDue s.2 = true ∨ ∃ happening, Prompt happening s ∧
      (happening.occur (poll who) outcomes s).1.isDue (happening.occur (poll who) outcomes s).2 =
        true := by
  obtain ⟨task, m⟩ := s
  obtain ⟨hheads, -, hlatest⟩ := h
  cases hheads with
  | ready h => exact .inl rfl
  | @asleep deadline ticket held next _ hle h =>
    have hnow : m.now + (deadline - m.now) = deadline := Nat.add_sub_of_le hlatest
    refine .inr ⟨.pass (deadline - m.now), ⟨_, _, _, _, rfl, Nat.le_of_eq hnow⟩, ?_⟩
    simp only [Happening.occur, isDue, Machine.isDue, (m.world_advanceTo _).2, hnow,
      Nat.le_refl, decide_true]
  | @listening channel noticed held next _ h =>
    refine .inr ⟨.settle channel, trivial, ?_⟩
    have hsettled := m.channelState_send_ne_open channel (outcomes channel)
    have hsent := (h.settles (m.settles_send outcomes channel)).available.1.resolve_left hsettled
    exact isDue_listening hsent ..
  | ended h => exact (hrests _ rfl).elim

/-- However many turns are asked for, the task can have them promptly, until it ends. -/
theorem OnTime.exists_turns {start : Nat} (h : OnTime outcomes result start s waits) (count : Nat) :
    ∃ happenings, Punctual who outcomes happenings s ∧
      ((∃ outcome, (after (poll who) outcomes happenings s).1 = .ended outcome) ∨
        count ≤ turns who outcomes happenings s) := by
  induction count generalizing s waits with
  | zero => exact ⟨[], trivial, .inr (Nat.zero_le _)⟩
  | succ count ih =>
    by_cases hended : ∃ outcome, s.1 = .ended outcome
    · exact ⟨[], trivial, .inl hended⟩
    -- a turn of a task that can go on, and then as many as are left
    have hturn : ∀ {s : Task × Machine} {waits : List Wait},
        OnTime outcomes result start s waits → s.1.isDue s.2 = true →
        ∃ happenings, Punctual who outcomes happenings s ∧
          ((∃ outcome, (after (poll who) outcomes happenings s).1 = .ended outcome) ∨
            count + 1 ≤ turns who outcomes happenings s) := by
      intro s waits h hdue
      obtain ⟨waits', hnext⟩ := h.occur who (.poll 1) trivial
      obtain ⟨happenings, hpunctual, hfar⟩ := ih hnext
      refine ⟨.poll 1 :: happenings, ⟨trivial, hpunctual⟩, hfar.imp id fun hcount => ?_⟩
      have hcounts : (isTurn (.poll 1) s).toNat = 1 := by simp [isTurn, hdue]
      simp only [turns, hcounts]
      omega
    rcases h.exists_due who (not_exists.mp hended) with hdue | ⟨happening, hprompt, hdue⟩
    · exact hturn h hdue
    · obtain ⟨waits', hnext⟩ := h.occur who happening hprompt
      obtain ⟨happenings, hpunctual, hfar⟩ := hturn hnext hdue
      refine ⟨happening :: happenings, ⟨hprompt, hpunctual⟩, hfar.imp id fun hcount => ?_⟩
      simp only [turns]
      omega

end Task

end Effects
