import Effects.Proofs.Retrying
import Effects.Proofs.Unseen

/-!
# The bridge of a sequence

The bridge of two processes in a row does what the bridge of the first one does until that process
ends, and goes on with its value. By itself the bridge of the first process drops it at its end; in
a row the second process is built before that. So from the end of the first process on the two
orders come to the same in a world in which the continuation cannot see the first process.

`Operation.Continues` says this of operations, each in the world in which it runs. A poll keeps it
(`Task.Continues.poll`), and so does whatever happens until the first process ends
(`Task.Continued.after`). In one piece, which is what times are measured by,
`Operation.Continues.carryOut` says the same.
-/

namespace Effects

/-! ## Operations -/

namespace Operation

/-- What follows the bridge of a process: the bridge of what the continuation builds, if there is a
value; a failure is passed on as it is. -/
def continuing (k : Value → Plan Process) : Outcome → Operation
  | .ok v => (k v).start.awaited
  | .error e => .settled (.error e)

/-- In the world, the second operation does what the first one does, and goes on with its value. The
first one gives up what it holds at its end before anything else can happen. The second one builds
the continuation before that; if the first part is `unseen`, this makes no difference. -/
inductive Continues (unseen : Prop) (k : Value → Plan Process) :
    World → Operation → Operation → Prop where
  | act (a : Act) {w : World} {next next' : a.Answer → Operation}
    (h : Continues unseen k (w.perform a).2 (next (w.perform a).1) (next' (w.perform a).1)) :
    Continues unseen k w (.act a next) (.act a next')
  /-- While an operation rests, the world may change in any way, but serials are not used again. -/
  | sleep (ms : Nat) (held : List Claim) {w : World} {next next' : Operation}
    (h : ∀ later, w.nextSerial ≤ later.nextSerial → Continues unseen k later next next') :
    Continues unseen k w (.sleep ms held next) (.sleep ms held next')
  | receive (channel : Channel) (held : List Claim) {w : World} {next next' : Outcome → Operation}
    (h : ∀ outcome later, w.nextSerial ≤ later.nextSerial →
      Continues unseen k later (next outcome) (next' outcome)) :
    Continues unseen k w (.receive channel held next) (.receive channel held next')
  | failed (e : Failure) (w : World) :
    Continues unseen k w (.settled (.error e)) (.settled (.error e))
  | completed (v : Value) (claims : List Claim) {w : World}
    (h : unseen → (k v).BlindTo claims w) :
    Continues unseen k w (.releasing claims fun _ => .settled (.ok v))
      (.ofPlan (k v) fun p => .releasing claims fun _ => p.start.awaited)

namespace Continues

variable {unseen : Prop} {k : Value → Plan Process} {w : World}

theorem releasing (claims : List Claim) {next next' : Unit → Operation}
    (h : Continues unseen k (w.release claims) (next ()) (next' ())) :
    Continues unseen k w (.releasing claims next) (.releasing claims next') := by
  cases claims with
  | nil => exact h
  | cons claim claims => exact .act _ h

theorem failing (claims : List Claim) (e : Failure) :
    Continues unseen k w (.releasing claims fun _ => .settled (.error e))
      (.releasing claims fun _ => .settled (.error e)) :=
  .releasing claims (.failed e _)

theorem ofPlan {α : Type} (plan : Plan α) {next next' : α → Operation}
    (h : ∀ a later, Continues unseen k later (next a) (next' a)) :
    Continues unseen k w (.ofPlan plan next) (.ofPlan plan next') := by
  induction plan generalizing w with
  | done a => exact h a w
  | act a rest ih => exact .act a (ih _)

/-- Serials are not used again while another operation is under way. -/
theorem andThen (op : Operation) (held : List Claim) {next next' : Outcome → Operation}
    (h : ∀ outcome later, w.nextSerial ≤ later.nextSerial →
      Continues unseen k later (next outcome) (next' outcome)) :
    Continues unseen k w (op.andThen held next) (op.andThen held next') := by
  induction op generalizing w with
  | settled outcome => exact h outcome w (Nat.le_refl _)
  | act a rest ih =>
    exact .act a (ih _ fun outcome later hlater =>
      h outcome later ((w.nextSerial_le_perform a).trans hlater))
  | sleep ms own rest ih =>
    exact .sleep ms _ fun later hlater =>
      ih fun outcome last hlast => h outcome last (hlater.trans hlast)
  | receive channel own rest ih =>
    exact .receive channel _ fun outcome later hlater =>
      ih outcome fun outcome last hlast => h outcome last (hlater.trans hlast)

end Continues

end Operation

/-! ## Bridges -/

theorem Process.held_dropAtEnd (p : Process) : p.dropAtEnd.held = p.held := by
  cases p <;> rfl

theorem Process.held_andThenHolding (owned : List Claim) (k : Value → Plan Process) (p : Process) :
    (p.andThenHolding owned k).held = p.held ++ owned := by
  cases p <;> rfl

theorem Run.awaited_releasing (claims : List Claim) (next : Unit → Run) :
    (Run.releasing claims next).awaited = .releasing claims fun _ => (next ()).awaited := by
  cases claims <;> rfl

theorem Run.awaited_ofPlan {α : Type} (plan : Plan α) (next : α → Run) :
    (Run.ofPlan plan next).awaited = .ofPlan plan fun a => (next a).awaited := by
  induction plan with
  | done a => rfl
  | act a rest ih => exact congrArg (Operation.act a) (funext ih)

/-- The bridge drops a process at its end in any case. -/
theorem Run.awaited_dropAtEnd (r : Run) : r.dropAtEnd.awaited = r.awaited := by
  induction r using Run.induct with
  | act a next ih => exact congrArg (Operation.act a) (funext ih)
  | completed v rest => exact awaited_releasing rest.held _
  | failed failure rest => exact awaited_releasing rest.held _
  | suspended kind payload rest ih =>
    have hrest (v : Value) : rest.dropAtEnd.awaited v = rest.awaited v := by
      rw [Process.awaited_eq, Process.awaited_eq, Process.advance_dropAtEnd, ih]
    simp only [dropAtEnd, awaited, Process.held_dropAtEnd, hrest]

section

variable {unseen : Prop} {k : Value → Plan Process} {w : World}

theorem Run.continues_awaited {r : Run}
    (h : unseen → r.AtEnd (fun v rest later => (k v).BlindTo rest.held later) w) :
    Operation.Continues unseen k w r.awaited (r.andThenHolding [] k).awaited := by
  induction r using Run.induct generalizing w with
  | act a next ih => exact .act a (ih _ h)
  | completed v rest =>
    simp only [andThenHolding, awaited_ofPlan, awaited_releasing, awaited_dropAtEnd]
    exact .completed v rest.held h
  | failed failure rest =>
    rw [andThenHolding, awaited_releasing, List.append_nil]
    exact .failing rest.held failure
  | suspended kind payload rest ih =>
    have hheld : (rest.andThenHolding [] k).held = rest.held := by
      rw [Process.held_andThenHolding, List.append_nil]
    rw [andThenHolding, awaited, awaited, hheld]
    by_cases hkind : kind = .wait
    · rw [if_pos hkind, if_pos hkind]
      cases payload.toFuture kind with
      | error failure => exact .failing _ failure
      | ok pending =>
        refine .act _ (.andThen pending.start rest.held fun outcome later hlater => ?_)
        cases outcome with
        | ok v =>
          simp only [Process.awaited_eq, Process.advance_andThenHolding]
          exact ih v fun hunseen => Process.AtEnd.advance (h hunseen) hlater v
        | error failure => exact .act _ (.failing rest.held _)
    · rw [if_neg hkind, if_neg hkind]
      exact .ofPlan kind.unhandled fun failure later => .failing _ failure

/-- The bridge of a sequence goes on with the value of its first part, in every world to come. -/
theorem Process.continues_bridge {c : Process} (h : unseen → c.UnseenBy k w) {later : World}
    (hlater : w.nextSerial ≤ later.nextSerial) :
    Operation.Continues unseen k later c.bridge.start (c.andThen k).bridge.start := by
  show Operation.Continues unseen k later (c.awaited .null) ((c.andThenHolding [] k).awaited .null)
  rw [awaited_eq, awaited_eq, advance_andThenHolding]
  exact Run.continues_awaited fun hunseen => Process.AtEnd.advance (h hunseen) hlater .null

end

/-! ## Tasks at their end -/

namespace Task

variable (who : Party) (outcomes : Channel → Outcome)

/-- A task that has not ended by then ends in the poll after the earlier happenings. -/
structure EndsAt (s : Task × Machine) (earlier : List Happening) (allowance : Nat)
    (outcome : Outcome) : Prop where
  rests : ∀ outcome, (after (poll who) outcomes earlier s).1 ≠ .ended outcome
  ends : (after (poll who) outcomes (earlier ++ [.poll allowance]) s).1 = .ended outcome

variable {who} {outcomes} {s : Task × Machine}

theorem after_cons (happening : Happening) (later : List Happening) :
    after (poll who) outcomes (happening :: later) s =
      after (poll who) outcomes later (happening.occur (poll who) outcomes s) := rfl

theorem after_append (earlier later : List Happening) :
    after (poll who) outcomes (earlier ++ later) s =
      after (poll who) outcomes later (after (poll who) outcomes earlier s) := List.foldl_append

/-- A task that has ended stays as it is, and it does not matter for anything else with which
outcome it has ended. -/
theorem after_ended_congr (happenings : List Happening) (outcome other : Outcome) (m : Machine) :
    after (poll who) outcomes happenings (.ended outcome, m) =
      (.ended outcome, (after (poll who) outcomes happenings (.ended other, m)).2) := by
  induction happenings generalizing m with
  | nil => rfl
  | cons happening later ih => cases happening <;> exact ih _

theorem after_of_ended (happenings : List Happening) {outcome : Outcome}
    (h : s.1 = .ended outcome) : (after (poll who) outcomes happenings s).1 = .ended outcome := by
  obtain ⟨task, m⟩ := s
  obtain rfl : task = .ended outcome := h
  rw [after_ended_congr happenings outcome outcome]

/-- A task ends in a poll. -/
theorem exists_endsAt {happenings : List Happening} {outcome : Outcome}
    (hrests : ∀ outcome, s.1 ≠ .ended outcome)
    (hended : (after (poll who) outcomes happenings s).1 = .ended outcome) :
    ∃ earlier allowance later, happenings = earlier ++ .poll allowance :: later ∧
      EndsAt who outcomes s earlier allowance outcome := by
  induction happenings using List.reverseRecOn with
  | nil => exact (hrests outcome hended).elim
  | append_singleton before last ih =>
    by_cases hbefore : ∃ outcome, (after (poll who) outcomes before s).1 = .ended outcome
    · -- nothing happens to a task at its end, so the outcome is the same
      obtain ⟨outcome', hbefore⟩ := hbefore
      have hsame : (after (poll who) outcomes [last] (after (poll who) outcomes before s)).1 =
        .ended outcome' := after_of_ended [last] hbefore
      rw [← after_append, hended] at hsame
      obtain ⟨earlier, allowance, later, rfl, hends⟩ := ih (hbefore.trans hsame.symm)
      exact ⟨earlier, allowance, later ++ [last], by simp, hends⟩
    · -- a task cannot end in anything but a poll
      have hrests' := not_exists.mp hbefore
      rw [after_append] at hended
      cases last with
      | poll allowance => exact ⟨before, allowance, [], rfl, hrests', by rwa [after_append]⟩
      | pass ms => exact (hrests' outcome hended).elim
      | settle channel => exact (hrests' outcome hended).elim

/-- From the poll on in which a task ends, it is at its end. -/
theorem EndsAt.after_eq {earlier : List Happening} {allowance : Nat} {outcome : Outcome}
    (h : EndsAt who outcomes s earlier allowance outcome) (later : List Happening) :
    after (poll who) outcomes (earlier ++ .poll allowance :: later) s =
      after (poll who) outcomes later
        (.ended outcome, (after (poll who) outcomes (earlier ++ [.poll allowance]) s).2) := by
  rw [List.append_cons, after_append]
  exact congrArg (after (poll who) outcomes later) (Prod.ext h.ends rfl)

end Task

/-! ## Polling -/

/-- The two operations rest in the same place, and the second one goes on with the value of the
first one. -/
inductive Resting.Continues (unseen : Prop) (k : Value → Plan Process) (w : World) :
    Resting → Resting → Prop where
  | asleep (deadline : Nat) (ticket : Option Nat) (held : List Claim) {next next' : Operation}
    (h : ∀ later, w.nextSerial ≤ later.nextSerial →
      Operation.Continues unseen k later next next') :
    Continues unseen k w (.asleep deadline ticket held next) (.asleep deadline ticket held next')
  | listening (channel : Channel) (noticed : Bool) (held : List Claim)
    {next next' : Outcome → Operation}
    (h : ∀ outcome later, w.nextSerial ≤ later.nextSerial →
      Operation.Continues unseen k later (next outcome) (next' outcome)) :
    Continues unseen k w (.listening channel noticed held next)
      (.listening channel noticed held next')

/-- The two tasks are in the same place: under way, or at the same failure. -/
inductive Task.Continues (unseen : Prop) (k : Value → Plan Process) (w : World) :
    Task → Task → Prop where
  | ready {op op' : Operation}
    (h : ∀ later, w.nextSerial ≤ later.nextSerial → Operation.Continues unseen k later op op') :
    Continues unseen k w (.ready op) (.ready op')
  | resting {r r' : Resting} (h : r.Continues unseen k w r') :
    Continues unseen k w (.resting r) (.resting r')
  | failed (e : Failure) : Continues unseen k w (.ended (.error e)) (.ended (.error e))

/-- The two tasks are in the same place and their machines are the same, or the first one has ended
with a value and the second one has gone on with it. -/
inductive Task.Continued (who : Party) (unseen : Prop) (k : Value → Plan Process) :
    Task × Machine → Task × Machine → Prop where
  | along {task task' : Task} {m : Machine} (h : task.Continues unseen k m.world task') :
    Continued who unseen k (task, m) (task', m)
  | completed (v : Value) {m : Machine} {s' : Task × Machine}
    (h : unseen → s' = (Task.ready (k v).start.awaited).poll who m) :
    Continued who unseen k (.ended (.ok v), m) s'

section

variable {who : Party} {unseen : Prop} {k : Value → Plan Process}

/-- In a world in which the continuation cannot see a release, it can be built before or after. -/
theorem Machine.follow_building {m : Machine} {v : Value} {claims : List Claim}
    (h : (k v).BlindTo claims m.world) :
    m.follow who (.ofPlan (k v) fun p => .releasing claims fun _ => p.start.awaited) =
      (m.during (Plan.release claims)).2.follow who (k v).start.awaited := by
  rw [Plan.start, Run.awaited_ofPlan, follow_ofPlan, follow_ofPlan, follow_releasing]
  simp only [during, World.carryOut_release, World.carryOut_release_of_blind h]

theorem Operation.Continues.follow {op op' : Operation} {m : Machine}
    (h : Continues unseen k m.world op op') :
    Task.Continued who unseen k ((m.follow who op).map Progress.task id)
      ((m.follow who op').map Progress.task id) := by
  generalize hw : m.world = w at h
  induction h generalizing m with
  | act a _ ih =>
    subst hw
    rw [Machine.follow_act, Machine.follow_act]
    exact ih rfl
  | sleep ms held h ih =>
    subst hw
    rw [Machine.follow, Machine.follow]
    split
    -- without a turn left both are postponed, and a pause of no time is over at once
    · exact .along (.resting (.asleep _ _ _ ((m.world_postpone who).symm ▸ h)))
    · split
      · exact ih m.world (Nat.le_refl _) rfl
      · exact .along (.resting (.asleep _ _ _ h))
  | receive channel held h ih =>
    subst hw
    rw [Machine.follow, Machine.follow]
    split
    · exact .along (.resting (.listening _ _ _ ((m.world_postpone who).symm ▸ h)))
    · split
      · exact ih _ m.world (Nat.le_refl _) rfl
      · exact .along (.resting (.listening _ _ _ h))
  | failed e w => exact .along (.failed e)
  | completed v claims h =>
    subst hw
    rw [Machine.follow_releasing]
    exact .completed v fun hunseen =>
      congrArg (Prod.map Progress.task id) (Machine.follow_building (h hunseen))

theorem Resting.Continues.resume {r r' : Resting} {m : Machine}
    (h : r.Continues unseen k m.world r') :
    Task.Continued who unseen k ((m.resume who r).map Progress.task id)
      ((m.resume who r').map Progress.task id) := by
  rw [Machine.resume.eq_def, Machine.resume.eq_def]
  split
  · exact .along (.resting ((m.world_postpone who).symm ▸ h))
  · cases h with
    | asleep deadline ticket held h =>
      simp only
      split
      · exact Operation.Continues.follow (h m.world (Nat.le_refl _))
      · cases ticket <;> exact .along (.resting (.asleep _ _ _ h))
    | listening channel noticed held h =>
      simp only
      split
      · exact Operation.Continues.follow (h _ m.world (Nat.le_refl _))
      · exact .along (.resting (.listening _ _ _ h))

namespace Task

theorem Continues.poll {task task' : Task} {m : Machine}
    (h : task.Continues unseen k m.world task') :
    Continued who unseen k (task.poll who m) (task'.poll who m) := by
  cases h with
  | ready h => exact Operation.Continues.follow (h m.world (Nat.le_refl _))
  | resting h => exact h.resume
  | failed e => exact .along (.failed e)

theorem Continues.later {task task' : Task} {w later : World}
    (h : task.Continues unseen k w task') (hlater : w.nextSerial ≤ later.nextSerial) :
    task.Continues unseen k later task' := by
  cases h with
  | ready h => exact .ready fun last hlast => h last (hlater.trans hlast)
  | resting h =>
    cases h with
    | asleep deadline ticket held h =>
      exact .resting (.asleep _ _ _ fun last hlast => h last (hlater.trans hlast))
    | listening channel noticed held h =>
      exact .resting (.listening _ _ _ fun outcome last hlast =>
        h outcome last (hlater.trans hlast))
  | failed e => exact .failed e

variable {outcomes : Channel → Outcome} {s s' : Task × Machine}

theorem Continued.occur (h : Continued who unseen k s s') (hrests : ∀ v, s.1 ≠ .ended (.ok v))
    (outcomes : Channel → Outcome) (happening : Happening) :
    Continued who unseen k (happening.occur (poll who) outcomes s)
      (happening.occur (poll who) outcomes s') := by
  cases h with
  | completed v h => exact (hrests v rfl).elim
  | @along task task' m h =>
    cases happening with
    | poll allowance => exact Continues.poll (m := { m with allowance }) h
    | pass ms =>
      have hworld := (m.world_advanceTo (m.now + ms)).1
      exact .along (h.later (congrArg World.nextSerial hworld).ge)
    | settle channel =>
      have hworld := (m.settles_send outcomes channel).unheard
      exact .along (h.later (congrArg World.nextSerial hworld :).le)

/-- Until the first task completes, the second one is where the first one is. -/
theorem Continued.after (h : Continued who unseen k s s') {happenings : List Happening}
    (hrests : ∀ v, (after (poll who) outcomes happenings s).1 ≠ .ended (.ok v)) :
    Continued who unseen k (after (poll who) outcomes happenings s)
      (after (poll who) outcomes happenings s') := by
  induction happenings generalizing s s' with
  | nil => exact h
  | cons happening later ih =>
    have hnow (v : Value) : s.1 ≠ .ended (.ok v) := fun hended =>
      hrests v (after_of_ended (happening :: later) hended)
    exact ih (h.occur hnow outcomes happening) hrests

theorem Continued.of_rests (h : Continued who unseen k s s')
    (hrests : ∀ outcome, s.1 ≠ .ended outcome) :
    (∀ outcome, s'.1 ≠ .ended outcome) ∧ s'.2 = s.2 := by
  cases h with
  | completed v h => exact (hrests _ rfl).elim
  | along h =>
    cases h with
    | ready h => exact ⟨nofun, rfl⟩
    | resting h => exact ⟨nofun, rfl⟩
    | failed e => exact (hrests _ rfl).elim

theorem Continued.eq_of_failed (h : Continued who unseen k s s') {e : Failure}
    (hfailed : s.1 = .ended (.error e)) : s' = s := by
  cases h with
  | completed v h => cases hfailed
  | along h =>
    cases h with
    | ready h => cases hfailed
    | resting h => cases hfailed
    | failed e => rfl

theorem Continued.eq_of_completed (h : Continued who unseen k s s') {v : Value}
    (hcompleted : s.1 = .ended (.ok v)) (hunseen : unseen) :
    s' = (Task.ready (k v).start.awaited).poll who s.2 := by
  cases h with
  | completed v h =>
    cases hcompleted
    exact h hunseen
  | along h =>
    cases h with
    | ready h => cases hcompleted
    | resting h => cases hcompleted
    | failed e => cases hcompleted

/-- In the poll in which the first task completes, the second one goes on with the value. -/
theorem EndsAt.continued {earlier : List Happening} {allowance : Nat} {v : Value}
    (h : EndsAt who outcomes s earlier allowance (.ok v)) (hcontinued : Continued who unseen k s s')
    (hunseen : unseen) (later : List Happening) :
    after (poll who) outcomes (earlier ++ .poll allowance :: later) s' =
      after (poll who) outcomes later ((Task.ready (k v).start.awaited).poll who
        (after (poll who) outcomes (earlier ++ [.poll allowance]) s).2) := by
  have hends := h.ends
  rw [after_append] at hends
  have hrests (v : Value) := h.rests (.ok v)
  have hpolled := (hcontinued.after hrests).occur hrests outcomes (.poll allowance)
  rw [after_append, after_append]
  exact congrArg (after (poll who) outcomes later) (hpolled.eq_of_completed hends hunseen)

end Task

end

/-! ## In one piece -/

namespace Operation

variable {outcomes : Channel → Outcome} {w : World}

theorem available_releasing {claims : List Claim} {next : Unit → Operation}
    (h : (next ()).Available outcomes (w.release claims)) :
    (releasing claims next).Available outcomes w := by
  cases claims <;> exact h

theorem available_ofPlan {α : Type} {plan : Plan α} {next : α → Operation} :
    (ofPlan plan next).Available outcomes w ↔
      (next (w.carryOut plan).1).Available outcomes (w.carryOut plan).2 := by
  induction plan generalizing w with
  | done a => rfl
  | act a rest ih => exact ih _

namespace Continues

variable {unseen : Prop} {k : Value → Plan Process} {op op' : Operation}

/-- In one piece, the second operation is the first one, and then what follows it. -/
theorem carryOut (h : Continues unseen k w op op') (waits : List Wait)
    (hunseen : ∀ v, (w.carryOut (op.carriedOut outcomes waits)).1.1 = .ok v → unseen) :
    w.carryOut (op'.carriedOut outcomes waits) =
      w.carryOut ((op.andThen [] (.continuing k)).carriedOut outcomes waits) := by
  rw [carriedOut_andThen, World.carryOut_bind]
  induction h generalizing waits with
  | act a _ ih => exact ih waits hunseen
  | @sleep ms held w _ _ _ ih => exact ih w (Nat.le_refl _) _ hunseen
  | @receive channel held w _ _ _ ih => exact ih _ w (Nat.le_refl _) _ hunseen
  | failed e w => rfl
  | @completed v claims w h =>
    rw [World.carryOut_releasing] at hunseen ⊢
    have hblind := h (hunseen v rfl)
    simp only [continuing, Plan.start, Run.awaited_ofPlan, carriedOut_ofPlan, carriedOut_releasing,
      World.carryOut_bind, World.carryOut_release, World.carryOut_release_of_blind hblind]

/-- The second operation can have all that it waits for, if the first one and what follows it
can. -/
theorem available (h : Continues unseen k w op op') (waits : List Wait)
    (hunseen : ∀ v, (w.carryOut (op.carriedOut outcomes waits)).1.1 = .ok v → unseen)
    (havailable : op.Available outcomes w)
    (hnext : (continuing k (w.carryOut (op.carriedOut outcomes waits)).1.1).Available outcomes
      (w.carryOut (op.carriedOut outcomes waits)).2) : op'.Available outcomes w := by
  induction h generalizing waits with
  | act a _ ih => exact ih waits hunseen havailable hnext
  | @sleep ms held w _ _ _ ih => exact ih w (Nat.le_refl _) _ hunseen havailable hnext
  | @receive channel held w _ _ _ ih =>
    exact ⟨havailable.1, ih _ w (Nat.le_refl _) _ hunseen havailable.2 hnext⟩
  | failed e w => trivial
  | @completed v claims w h =>
    rw [World.carryOut_releasing] at hunseen hnext
    have hblind := h (hunseen v rfl)
    simp only [continuing, Plan.start, Run.awaited_ofPlan, available_ofPlan,
      World.carryOut_release_of_blind hblind] at hnext
    exact available_ofPlan.mpr (available_releasing hnext)

end Continues

end Operation

end Effects
