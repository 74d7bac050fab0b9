import Mathlib.Data.List.Nodup
import Effects.Proofs.Awaiting

/-!
# Settling deferred operations in any order

A deferred operation is settled from outside, by whoever has its resolver, at some time or other:
before the process waits for it, while it waits, or after the process has failed. The bridge of a
process that waits for deferred operations has one result nevertheless, and it is determined by the
order of the waits in the process. The order in which the resolvers are used does not matter, nor do
the polls in between.
-/

namespace Effects

/-- What becomes of the resolver of a deferred operation. -/
inductive Settlement where
  | resolved (value : Value)
  | rejected (failure : Failure)
  /-- It is dropped without having been used. -/
  | dropped

/-- The outcome that is sent. A resolver that is dropped abandons the operation. -/
def Settlement.outcome : Settlement → Outcome
  | resolved value => .ok value
  | rejected failure => .error failure
  | dropped => .error .abandoned

mutual

/-- However the process is advanced, it waits for deferred operations only. -/
def Process.Defers : Process → Prop
  | .spent _ => True
  | .paused _ resume => ∀ v, (resume v).Defers

/-- The advance, and those after it, wait for deferred operations only. -/
def Run.Defers : Run → Prop
  | .act _ next => ∀ answer, (next answer).Defers
  | .suspended kind payload rest =>
    (kind = .wait → ∀ pending, payload = .future pending →
      ∃ channel, pending = .deferred channel) ∧ rest.Defers
  | .completed _ _ => True
  | .failed _ _ => True

end

theorem Process.Defers.advance {p : Process} (h : p.Defers) (v : Value) : (p.advance v).Defers := by
  cases p with
  | spent held => trivial
  | paused held resume => exact h v

/-! ## The waits of the driver -/

section

variable (outcomes : Channel → Outcome)

theorem Run.answeredBy_deferred (channel : Channel) (rest : Process) (waits : List Wait) :
    (Run.suspended .wait (.future (.deferred channel)) rest).answeredBy (answering outcomes) waits =
      match outcomes channel with
      | .ok value => rest.answeredBy (answering outcomes) (waits ++ [.outcome channel]) value
      | .error failure => (Plan.release rest.held).bind fun _ =>
          .done (.error (.asyncFailure failure), waits ++ [.outcome channel]) := by
  have hanswer : answering outcomes waits ⟨.wait, .future (.deferred channel)⟩ =
      .done ((outcomes channel).mapError .asyncFailure, waits ++ [.outcome channel]) := rfl
  rw [Run.answeredBy, hanswer]
  cases outcomes channel <;> rfl

/-- The driver waits for some deferred operations, one after the other. The first one that has
failed is the last one for which it waits, and this failure is the result. -/
theorem Run.Defers.waits {r : Run} (h : r.Defers) (w : World) (waits : List Wait) :
    ∃ channels : List Channel,
      (w.carryOut (r.answeredBy (answering outcomes) waits)).1.2 = waits ++ channels.map .outcome ∧
      ∀ channel ∈ channels, ∀ failure, outcomes channel = .error failure →
        channels.getLast? = some channel ∧
          (w.carryOut (r.answeredBy (answering outcomes) waits)).1.1 =
            .error (.asyncFailure failure) := by
  induction r using Run.induct generalizing w waits with
  | act a next ih => exact ih _ (h _) _ waits
  | completed v rest => exact ⟨[], by simp [Run.answeredBy], nofun⟩
  | failed failure rest => exact ⟨[], by simp [Run.answeredBy], nofun⟩
  | suspended kind payload rest ih =>
    by_cases hkind : kind = .wait
    · subst hkind
      cases payload with
      | future pending =>
        obtain ⟨channel, rfl⟩ := h.1 rfl pending rfl
        rw [Run.answeredBy_deferred]
        cases houtcome : outcomes channel with
        | error failure =>
          refine ⟨[channel], by simp, ?_⟩
          intro other hother failure' hfailure'
          obtain rfl : other = channel := List.mem_singleton.mp hother
          obtain rfl : failure = failure' := by
            rw [houtcome] at hfailure'
            exact Except.error.inj hfailure'
          exact ⟨rfl, by simp⟩
        | ok value =>
          simp only
          rw [Process.answeredBy_eq]
          obtain ⟨channels, hwaits, hfailed⟩ :=
            ih value (h.2.advance value) w (waits ++ [.outcome channel])
          refine ⟨channel :: channels, by simp [hwaits], ?_⟩
          intro other hother failure hfailure
          rcases List.mem_cons.mp hother with rfl | hlater
          · rw [houtcome] at hfailure
            cases hfailure
          · obtain ⟨hlast, hresult⟩ := hfailed other hlater failure hfailure
            exact ⟨by simp [List.getLast?_cons, hlast], hresult⟩
      | none | value v | body held enter =>
        exact ⟨[], by simp [Run.answeredBy, answering, Payload.toFuture], nofun⟩
    · exact ⟨[], by simp [Run.answeredBy, answering, hkind], nofun⟩

end

/-! ## Once everything is settled -/

namespace Machine

variable {channel : Channel}

/-- What has been sent or given up stays so while an operation is followed. -/
theorem follow_settled (who : Party) {op : Operation} {m : Machine}
    (h : m.world.channelState channel ≠ .open) :
    (m.follow who op).2.world.channelState channel ≠ .open := by
  induction op generalizing m with
  | settled outcome => exact h
  | act a next ih =>
    rw [follow_act]
    refine ih _ ?_
    show (m.world.perform a).2.channelState channel ≠ .open
    rwa [World.channelState_perform_of_ne_open h]
  | sleep ms held next ih =>
    rw [follow]
    split
    · rwa [world_postpone]
    · split
      · exact ih (m := m.spend) h
      · exact h
  | receive channel held next ih =>
    rw [follow]
    split
    · rwa [world_postpone]
    · split
      · exact ih _ (m := m.spend) h
      · exact h

theorem resume_settled (who : Party) {r : Resting} {m : Machine}
    (h : m.world.channelState channel ≠ .open) :
    (m.resume who r).2.world.channelState channel ≠ .open := by
  rw [resume.eq_def]
  split
  · rwa [world_postpone]
  · cases r with
    | asleep deadline ticket held next =>
      simp only
      split
      · exact follow_settled who (m := m.spend) h
      · cases ticket <;> exact h
    | listening channel noticed held next =>
      simp only
      split
      · exact follow_settled who (m := m.spend) h
      · exact h

end Machine

section

variable (who : Party) (outcomes : Channel → Outcome) {s : Task × Machine} {channel : Channel}

/-- What has been sent or given up stays so, whatever happens. -/
theorem Happening.occur_settled (happening : Happening)
    (h : s.2.world.channelState channel ≠ .open) :
    (happening.occur (Task.poll who) outcomes s).2.world.channelState channel ≠ .open := by
  cases happening with
  | pass ms => rwa [Happening.occur, (s.2.world_advanceTo _).1]
  | settle other =>
    rcases (s.2.settles_send outcomes other).channels channel with hsame | hsent
    · rwa [Happening.occur, hsame]
    · rw [Happening.occur, hsent]
      exact ChannelState.noConfusion
  | poll allowance =>
    obtain ⟨task, m⟩ := s
    cases task with
    | ready op => exact Machine.follow_settled who (m := { m with allowance := allowance }) h
    | resting r => exact Machine.resume_settled who (m := { m with allowance := allowance }) h
    | ended outcome => exact h

/-- A deferred operation that is settled at some time is settled at the end. -/
theorem after_settled {happenings : List Happening} (s : Task × Machine)
    (h : s.2.world.channelState channel ≠ .open ∨ .settle channel ∈ happenings) :
    (after (Task.poll who) outcomes happenings s).2.world.channelState channel ≠ .open := by
  induction happenings generalizing s with
  | nil => exact h.resolve_right List.not_mem_nil
  | cons happening later ih =>
    refine ih (happening.occur (Task.poll who) outcomes s) ?_
    rcases h with hsettled | hmem
    · exact .inl (happening.occur_settled who outcomes hsettled)
    · rcases List.mem_cons.mp hmem with rfl | hlater
      · exact .inl (s.2.channelState_send_ne_open channel (outcomes channel))
      · exact .inr hlater

theorem after_ended {outcome : Outcome} (h : s.1 = .ended outcome) (happenings : List Happening) :
    (after (Task.poll who) outcomes happenings s).1 = .ended outcome := by
  induction happenings generalizing s with
  | nil => exact h
  | cons happening later ih =>
    refine ih ?_
    cases happening with
    | poll allowance =>
      obtain ⟨task, m⟩ := s
      obtain rfl : task = .ended outcome := h
      rfl
    | pass ms | settle channel => exact h

end

/-- How many waits a happening allows to complete. -/
def Happening.allowance : Happening → Nat
  | .poll allowance => allowance
  | _ => 0

/-- How many waits several happenings allow to complete. -/
def allowances : List Happening → Nat
  | [] => 0
  | happening :: later => happening.allowance + allowances later

namespace Task

variable {who : Party} {outcomes : Channel → Outcome} {result : Outcome × List Wait} {began : Nat}
  {waits : List Wait}

/-- All waits are for deferred operations that are settled, or have been given up. -/
def Settled (waits : List Wait) (w : World) : Prop :=
  ∀ wait ∈ waits, ∃ channel, wait = .outcome channel ∧ w.channelState channel ≠ .open

/-- If everything is settled, a task that rests can go on. -/
theorem Heads.isDue_of_settled {task : Task} {m : Machine}
    (h : task.Heads outcomes result m.world began waits) (hsettled : Settled result.2 m.world)
    (hrests : ∀ outcome, task ≠ .ended outcome) : task.isDue m = true := by
  -- the present wait is one of the waits of the result
  have hahead : ∀ {wait}, waits ++ [wait] <+: result.2 → wait ∈ result.2 := fun hprefix =>
    hprefix.subset (by simp)
  cases h with
  | ready h => rfl
  | asleep hle h =>
    obtain ⟨channel, hwait, -⟩ := hsettled _ (hahead h.sleep.waits_prefix)
    cases hwait
  | listening h =>
    obtain ⟨channel, hwait, hstate⟩ := hsettled _ (hahead h.receive.waits_prefix)
    cases hwait
    exact isDue_listening (h.available.1.resolve_left hstate) ..
  | ended h => exact (hrests _ rfl).elim

/-- If everything is settled, the task needs no more than an allowance for all its waits. -/
theorem Heads.ended_of_allowances {s : Task × Machine}
    (h : s.1.Heads outcomes result s.2.world began waits) (hsettled : Settled result.2 s.2.world)
    (happenings : List Happening)
    (hallowances : result.2.length < waits.length + allowances happenings) :
    (Effects.after (poll who) outcomes happenings s).1 = .ended result.1 := by
  induction happenings generalizing s began waits with
  | nil => exact absurd h.length_le (Nat.not_le.mpr hallowances)
  | cons happening later ih =>
    have hstays : Settled result.2 (happening.occur (poll who) outcomes s).2.world :=
      fun wait hwait => by
        obtain ⟨channel, hchannel, hstate⟩ := hsettled wait hwait
        exact ⟨channel, hchannel, happening.occur_settled who outcomes hstate⟩
    cases happening with
    | pass ms =>
      have hworld := (s.2.world_advanceTo (s.2.now + ms)).1
      refine ih (s := (Happening.pass ms).occur (poll who) outcomes s) (hworld ▸ h) hstays ?_
      simpa [allowances, Happening.allowance] using hallowances
    | settle channel =>
      refine ih (s := (Happening.settle channel).occur (poll who) outcomes s)
        (h.settles (s.2.settles_send outcomes channel)) hstays ?_
      simpa [allowances, Happening.allowance] using hallowances
    | poll allowance =>
      obtain ⟨began', waits', hstops⟩ : ∃ began' waits', Stops outcomes result began'
          { s.2 with allowance := allowance } waits
          (s.1.poll who { s.2 with allowance := allowance }) waits' := by
        rcases Machine.poll_cases who (m := { s.2 with allowance := allowance }) h with
          hidles | ⟨waits', hgoes⟩
        · exact ⟨_, _, hidles.toStops⟩
        · exact ⟨_, _, hgoes.toStops⟩
      by_cases hended : ∃ outcome, (s.1.poll who { s.2 with allowance := allowance }).1 =
          .ended outcome
      · obtain ⟨outcome, hended⟩ := hended
        obtain rfl := hstops.heads.outcome_eq hended
        exact after_ended who outcomes hended later
      · -- it could go on, so it has used up its allowance
        have hdue := hstops.heads.isDue_of_settled hstays (not_exists.mp hended)
        have hspent := hstops.halted.resolve_right (by simp [hdue])
        have hcounted : waits'.length + _ = waits.length + allowance := hstops.counted
        refine ih hstops.heads hstays ?_
        simp only [allowances, Happening.allowance] at hallowances
        omega

end Task

/-! ## What is delivered -/

/-- The outcome of an operation that has settled. -/
def Entry.outcome? : Entry → Option Outcome
  | settled _ outcome => some outcome
  | _ => none

/-- The outcomes that the operations awaited have delivered. -/
def delivered (journal : List Entry) : List Outcome := journal.filterMap Entry.outcome?

theorem delivered_advanced (journal : List Entry) (n : Nat) (input : Value) :
    delivered (journal ++ [.advanced n input]) = delivered journal := by
  simp [delivered, Entry.outcome?]

theorem delivered_polled (journal : List Entry) (n : Nat) :
    delivered (journal ++ [.polled n]) = delivered journal := by
  simp [delivered, Entry.outcome?]

theorem delivered_settled (journal : List Entry) (n : Nat) (outcome : Outcome) :
    delivered (journal ++ [.settled n outcome]) = delivered journal ++ [outcome] := by
  simp [delivered, Entry.outcome?]

/-- A deferred operation has been polled, and nothing has happened to the world: it has delivered
its outcome, or it is still waiting for it. -/
def Machine.Hears (outcomes : Channel → Outcome) (channel : Channel) (w : World)
    (polled : Progress × Machine) : Prop :=
  polled.2.world = w ∧ (polled.1 = .ended (outcomes channel) ∨
    ∃ noticed, polled.1 = .resting (.listening channel noticed [.receiver channel] .settled))

namespace Machine

variable {outcomes : Channel → Outcome} {channel : Channel} {m : Machine}

theorem hears_follow (who : Party) (h : m.world.channelState channel = .open ∨
      m.world.channelState channel = .sent (outcomes channel)) :
    Hears outcomes channel m.world (m.follow who (Pending.deferred channel).start) := by
  rw [Pending.deferred, follow]
  split
  · exact ⟨m.world_postpone who, .inr ⟨false, rfl⟩⟩
  · rcases h with hopen | hsent
    · rw [hopen]
      exact ⟨rfl, .inr ⟨true, rfl⟩⟩
    · rw [hsent]
      exact ⟨rfl, .inl rfl⟩

theorem hears_resume (who : Party) (noticed : Bool) (h : m.world.channelState channel = .open ∨
      m.world.channelState channel = .sent (outcomes channel)) :
    Hears outcomes channel m.world
      (m.resume who (.listening channel noticed [.receiver channel] .settled)) := by
  rw [resume.eq_def]
  split
  · exact ⟨m.world_postpone who, .inr ⟨noticed, rfl⟩⟩
  · rcases h with hopen | hsent
    · simp only [hopen]
      exact ⟨rfl, .inr ⟨true, rfl⟩⟩
    · simp only [hsent]
      exact ⟨rfl, .inl rfl⟩

end Machine

namespace Loop

variable (outcomes : Channel → Outcome) (result : Outcome × List Wait)

/-- The loop stands at a wait for a deferred operation, or before the first wait, and the waits
behind it are those for the channels. -/
def Stands (channels : List Channel) (w : World) : Loop → Prop
  | .fresh c => c.Defers ∧ c.bridge.start.Heads outcomes result w (channels.map .outcome)
  | .waiting _ r rest => rest.Defers ∧ ∃ channel noticed,
      r = .listening channel noticed [.receiver channel] .settled ∧
        (Operation.receive channel [] (resumed rest)).Heads outcomes result w
          (channels.map .outcome)
  | .ended _ => True

/-- What has been delivered are the outcomes of the first channels for which the result waits. -/
def Delivers (s : State) : Prop :=
  ∃ channels : List Channel, delivered s.1.2 = channels.map outcomes ∧
    channels.map .outcome <+: result.2 ∧ s.1.1.Stands outcomes result channels s.2.world

variable {outcomes result} {channels : List Channel} {journal : List Entry}

theorem delivers_polled {n : Nat} {rest : Process} {next : Value → List Entry → Machine → State}
    {channel : Channel} {w : World} (hdefers : rest.Defers)
    (hnext : ∀ v journal m, delivered journal = (channels ++ [channel]).map outcomes →
      (rest.awaited v).Heads outcomes result m.world ((channels ++ [channel]).map .outcome) →
      Delivers outcomes result (next v journal m))
    (hdelivered : delivered journal = channels.map outcomes)
    (hheads : (Operation.receive channel [] (resumed rest)).Heads outcomes result w
      (channels.map .outcome))
    {progress : Progress × Machine} (hhears : Machine.Hears outcomes channel w progress) :
    Delivers outcomes result (polled n rest next journal progress) := by
  obtain ⟨progress, m⟩ := progress
  obtain ⟨rfl, rfl | ⟨noticed, rfl⟩⟩ := hhears
  · have hreceived := hheads.receive
    have hmore : delivered (journal ++ [.settled n (outcomes channel)]) =
        (channels ++ [channel]).map outcomes := by
      rw [delivered_settled, hdelivered, List.map_append, List.map_singleton]
    rw [← List.map_singleton, ← List.map_append] at hreceived
    cases houtcome : outcomes channel with
    | ok value =>
      rw [houtcome] at hreceived hmore
      exact hnext value _ m hmore hreceived
    | error failure =>
      rw [houtcome] at hmore
      exact ⟨channels ++ [channel], hmore, hreceived.waits_prefix, trivial⟩
  · exact ⟨channels, hdelivered, hheads.waits_prefix, hdefers, channel, noticed, rfl, hheads⟩

theorem delivers_looped (who : Party) {r : Run} (n : Nat) {m : Machine} (hdefers : r.Defers)
    (hdelivered : delivered journal = channels.map outcomes)
    (hheads : r.awaited.Heads outcomes result m.world (channels.map .outcome)) :
    Delivers outcomes result (r.looped who n journal m) := by
  induction r using Run.induct generalizing n journal channels m with
  | act a next ih => exact ih _ n (hdefers _) hdelivered hheads.act
  | completed v rest => exact ⟨channels, hdelivered, hheads.waits_prefix, trivial⟩
  | failed failure rest => exact ⟨channels, hdelivered, hheads.waits_prefix, trivial⟩
  | suspended kind payload rest ih =>
    rw [Run.looped]
    by_cases hkind : kind = .wait
    · subst hkind
      rw [if_pos rfl]
      cases payload with
      | future pending =>
        obtain ⟨channel, rfl⟩ := hdefers.1 rfl pending rfl
        let reported := (m.during (Plan.report .debug "awaiting pending operation" [])).2
        have hreceive : (Operation.receive channel [] (resumed rest)).Heads outcomes result
            reported.world (channels.map .outcome) :=
          ⟨hheads.act.available, hheads.act.arrives⟩
        refine delivers_polled hdefers.2 ?_ ((delivered_polled journal n).trans hdelivered) hreceive
          (Machine.hears_follow who hreceive.available.1)
        intro v journal m hdelivered hheads
        rw [Process.looped_eq]
        rw [Process.awaited_eq] at hheads
        exact ih v _ (hdefers.2.advance v) ((delivered_advanced ..).trans hdelivered) hheads
      | none | value v | body held enter =>
        exact ⟨channels, hdelivered, hheads.waits_prefix, trivial⟩
    · rw [if_neg hkind]
      exact ⟨channels, hdelivered, hheads.waits_prefix, trivial⟩

theorem delivers_poll (who : Party) (m : Machine) {loop : Loop × List Entry}
    (h : Delivers outcomes result (loop, m)) : Delivers outcomes result (poll who m loop) := by
  obtain ⟨channels, hdelivered, hprefix, hstands⟩ := h
  obtain ⟨loop, journal⟩ := loop
  cases loop with
  | fresh c =>
    obtain ⟨hdefers, hheads⟩ := hstands
    rw [poll, Process.looped_eq]
    rw [Process.bridge, Process.awaited_eq] at hheads
    exact delivers_looped who 0 (hdefers.advance .null)
      ((delivered_advanced ..).trans hdelivered) hheads
  | waiting n r rest =>
    obtain ⟨hdefers, channel, noticed, rfl, hheads⟩ := hstands
    refine delivers_polled hdefers ?_ ((delivered_polled journal n).trans hdelivered) hheads
      (Machine.hears_resume who noticed hheads.available.1)
    intro v journal m hdelivered hheads
    rw [Process.looped_eq]
    rw [Process.awaited_eq] at hheads
    exact delivers_looped who _ (hdefers.advance v) ((delivered_advanced ..).trans hdelivered)
      hheads
  | ended outcome => exact ⟨channels, hdelivered, hprefix, trivial⟩

/-- Outcomes that are sent in the meantime do not change where the loop stands. -/
theorem Stands.settles {loop : Loop} {w w' : World}
    (h : loop.Stands outcomes result channels w) (hw : World.Settles outcomes w w') :
    loop.Stands outcomes result channels w' := by
  cases loop with
  | fresh c => exact ⟨h.1, h.2.settles hw⟩
  | waiting n r rest =>
    obtain ⟨hdefers, channel, noticed, hr, hheads⟩ := h
    exact ⟨hdefers, channel, noticed, hr, hheads.settles hw⟩
  | ended outcome => trivial

theorem Delivers.after (who : Party) (happenings : List Happening) {s : State}
    (h : Delivers outcomes result s) :
    Delivers outcomes result (Effects.after (poll who) outcomes happenings s) := by
  induction happenings generalizing s with
  | nil => exact h
  | cons happening later ih =>
    refine ih ?_
    obtain ⟨channels, hdelivered, hprefix, hstands⟩ := h
    cases happening with
    | poll allowance =>
      exact delivers_poll who { s.2 with allowance := allowance }
        ⟨channels, hdelivered, hprefix, hstands⟩
    | pass ms =>
      have hworld := (s.2.world_advanceTo (s.2.now + ms)).1
      exact ⟨channels, hdelivered, hprefix, hworld ▸ hstands⟩
    | settle channel =>
      exact ⟨channels, hdelivered, hprefix, hstands.settles (s.2.settles_send outcomes channel)⟩

end Loop

/-- **The order of settlements does not matter.** Let a process wait for deferred operations only,
for each of them once at most, and let its bridge be polled while their resolvers are used. The
result is the one with which the driver returns when it has the outcomes at once. So the failure
that is reported is the first one in the order of the waits, wrapped once, and no wait comes after
it. Once all resolvers are used and the bridge is polled after that, with an allowance for its
waits, it ends with this result; it never ends with another one; and each operation delivers its
outcome once at most, in the order of the waits. -/
theorem settlement_order_irrelevant (who : Party) (settlements : Channel → Settlement) {c : Process}
    {m : Machine} (hdefers : c.Defers)
    (havailable : c.bridge.start.Available (fun channel => (settlements channel).outcome) m.world)
    (honce : (m.world.carryOut
      (c.driveWith (answering fun channel => (settlements channel).outcome) [])).1.2.Nodup) :
    let outcomes := fun channel => (settlements channel).outcome
    let driven := (m.world.carryOut (c.driveWith (answering outcomes) [])).1
    let bridged := fun happenings =>
      (after (Task.poll who) outcomes happenings (.ready c.bridge.start, m)).1
    let looped := fun happenings =>
      (after (Loop.poll who) outcomes happenings ((.fresh c, []), m)).1
    ∃ channels : List Channel, driven.2 = channels.map .outcome ∧
      (∀ channel ∈ channels, ∀ failure, outcomes channel = .error failure →
        channels.getLast? = some channel ∧ driven.1 = .error (.asyncFailure failure)) ∧
      (∀ before later, (∀ channel ∈ channels, .settle channel ∈ before) →
        channels.length < allowances later → bridged (before ++ later) = .ended driven.1) ∧
      (∀ happenings outcome, bridged happenings = .ended outcome → outcome = driven.1) ∧
      ∀ happenings, (looped happenings).1.task = bridged happenings ∧
        ∃ heard, heard <+: channels ∧ heard.Nodup ∧
          delivered (looped happenings).2 = heard.map outcomes := by
  intro outcomes driven bridged looped
  obtain ⟨channels, hwaits, hfailed⟩ := (hdefers.advance .null).waits outcomes m.world []
  rw [← Process.answeredBy_eq] at hwaits hfailed
  have hheads : c.bridge.start.Heads outcomes driven m.world [] := Process.heads_bridge havailable
  have hready : (Task.ready c.bridge.start).Heads outcomes driven m.world m.now [] := .ready hheads
  have hchannels : driven.2 = channels.map .outcome := hwaits
  refine ⟨channels, hchannels, hfailed, ?_, ?_, fun happenings => ⟨?_, ?_⟩⟩
  · intro before later hsettled hallowances
    obtain ⟨began, waits, hafter⟩ :=
      hready.after (s := (.ready c.bridge.start, m)) who before
    have happend : bridged (before ++ later) = (after (Task.poll who) outcomes later
        (after (Task.poll who) outcomes before (.ready c.bridge.start, m))).1 := by
      simp [bridged, after]
    rw [happend]
    refine hafter.ended_of_allowances ?_ later ?_
    · intro wait hwait
      rw [hchannels] at hwait
      obtain ⟨channel, hchannel, rfl⟩ := List.mem_map.mp hwait
      exact ⟨channel, rfl, after_settled who outcomes _ (.inr (hsettled channel hchannel))⟩
    · rw [hchannels, List.length_map]
      omega
  · intro happenings outcome hended
    obtain ⟨began, waits, hafter⟩ :=
      hready.after (s := (.ready c.bridge.start, m)) who happenings
    exact hafter.outcome_eq hended
  · exact congrArg Prod.fst (Loop.bridged_after who outcomes happenings ((.fresh c, []), m))
  · have hstart : Loop.Delivers outcomes driven ((.fresh c, []), m) :=
      ⟨[], rfl, List.nil_prefix, hdefers, hheads⟩
    obtain ⟨heard, hdelivered, hprefix, -⟩ := hstart.after who happenings
    have hinjective : Function.Injective Wait.outcome := fun _ _ => Wait.outcome.inj
    have hheard : heard <+: channels :=
      (List.prefix_map_iff_of_injective hinjective).mp (hchannels ▸ hprefix)
    have hnodup : channels.Nodup := (List.nodup_map_iff hinjective).mp (hchannels ▸ honce)
    exact ⟨heard, hheard, hnodup.sublist hheard.sublist, hdelivered⟩

/-- The second of three resolvers is dropped, and the third one is rejected before that. Whether the
first one is used early or late, the failure of the second wait is reported. -/
theorem settlement_order_of_three :
    let settlements : Channel → Settlement := fun channel =>
      [.resolved .null, .dropped, .rejected .alreadyCompleted].getD channel.id .dropped
    let outcomes := fun channel => (settlements channel).outcome
    let c := (awaiting (.deferred ⟨0⟩)).andThen fun _ =>
      .done ((awaiting (.deferred ⟨1⟩)).andThen fun _ => .done (awaiting (.deferred ⟨2⟩)))
    let m : Machine := { world := { channels := #[.open, .open, .open] } }
    let bridged := fun happenings =>
      (after (Task.poll .foreground) outcomes happenings (.ready c.bridge.start, m)).1
    bridged [.settle ⟨2⟩, .poll 1, .settle ⟨1⟩, .poll 1, .settle ⟨0⟩, .poll 3] =
        .ended (.error (.asyncFailure .abandoned)) ∧
      bridged [.settle ⟨0⟩, .poll 1, .settle ⟨1⟩, .settle ⟨2⟩, .poll 3] =
        .ended (.error (.asyncFailure .abandoned)) := by
  intro settlements outcomes c m bridged
  have hdeferred : ∀ channel, Kind.wait = .wait → ∀ pending,
      Payload.future (.deferred channel) = .future pending →
        ∃ channel, pending = .deferred channel :=
    fun channel _ pending h => ⟨channel, (Payload.future.inj h).symm⟩
  have hdefers : c.Defers := fun _ => ⟨hdeferred _, fun _ => ⟨hdeferred _, fun _ =>
    ⟨hdeferred _, fun _ => trivial⟩⟩⟩
  have havailable : c.bridge.start.Available outcomes m.world := ⟨.inl rfl, .inl rfl, trivial⟩
  have honce : [Wait.outcome ⟨0⟩, .outcome ⟨1⟩].Nodup := by simp
  obtain ⟨channels, hchannels, -, hends, -⟩ :=
    settlement_order_irrelevant .foreground settlements hdefers havailable honce
  have hwaits : [⟨0⟩, ⟨1⟩].map Wait.outcome = channels.map .outcome := hchannels
  obtain rfl : [⟨0⟩, ⟨1⟩] = channels :=
    List.map_injective_iff.mpr (fun _ _ => Wait.outcome.inj) hwaits
  have hearly := hends [.settle ⟨0⟩, .poll 1, .settle ⟨1⟩, .settle ⟨2⟩] [.poll 3]
  have hlate := hends [.settle ⟨2⟩, .poll 1, .settle ⟨1⟩, .poll 1, .settle ⟨0⟩] [.poll 3]
  exact ⟨hlate (by simp) (by decide), hearly (by simp) (by decide)⟩

end Effects
