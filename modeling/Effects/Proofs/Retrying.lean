import Mathlib.Algebra.BigOperators.Group.Finset.Basic
import Effects.Config.Basic
import Effects.Proofs.Awaiting
import Effects.Proofs.Interleaving

/-!
# Retries

A call that is repeated after failures makes one attempt after the other, until one succeeds or no
more are left, and pauses in between for longer and longer. `Operation.retrying` is this loop around
any attempt, of which `Service.retrying` is an instance; `Operation.retryingWithin` is the loop with
a counter and pauses that could overflow, and with anything at all in the place of an overflow.

What an attempt comes to depends on the world in which it begins, and so on the attempts before it;
`Operation.begins` is this world. An operation that is polled ends as it does in one piece, also
with respect to the world that it leaves (`Operation.ComesTo`), so it is enough to carry the loop
out, which is an induction on the attempts that are left. `Made` says how many of them are made.

A store in memory fails as long as failures are due. After that a request succeeds, unless it cannot
be understood, and then it never does. So what a call comes to can be told from the number of the
failures (`Store.made`).
-/

namespace Effects

/-! ## Where an operation ends -/

namespace Operation

variable (outcomes : Channel → Outcome)

/-- Waits that lie behind an operation are of no consequence. -/
theorem carryOut_carriedOut (op : Operation) (w : World) (waits : List Wait) :
    w.carryOut (op.carriedOut outcomes waits) =
      (((w.carryOut (op.carriedOut outcomes [])).1.1,
        waits ++ (w.carryOut (op.carriedOut outcomes [])).1.2),
        (w.carryOut (op.carriedOut outcomes [])).2) := by
  induction op generalizing w waits with
  | settled outcome => simp [carriedOut]
  | act a next ih => exact ih _ _ waits
  | sleep ms held next ih =>
    have hlater := ih w (waits ++ [.pause ms])
    have hfirst := ih w [.pause ms]
    simp [carriedOut, hlater, hfirst]
  | receive channel held next ih =>
    have hlater := ih (outcomes channel) w (waits ++ [.outcome channel])
    have hfirst := ih (outcomes channel) w [.outcome channel]
    simp [carriedOut, hlater, hfirst]

/-- The world that an operation leaves, apart from what no act asks for. -/
def leaves (w : World) (op : Operation) : World :=
  (w.carryOut (op.carriedOut outcomes [])).2.unheard

theorem leaves_sleep (w : World) (ms : Nat) (held : List Claim) (next : Operation) :
    (sleep ms held next).leaves outcomes w = next.leaves outcomes w := by
  rw [leaves, carriedOut, carryOut_carriedOut, leaves]

theorem leaves_receive (w : World) (channel : Channel) (held : List Claim)
    (next : Outcome → Operation) :
    (receive channel held next).leaves outcomes w =
      (next (outcomes channel)).leaves outcomes w := by
  rw [leaves, carriedOut, carryOut_carriedOut, leaves]

theorem leaves_congr {w w' : World} (h : w.unheard = w'.unheard) (op : Operation) :
    op.leaves outcomes w = op.leaves outcomes w' :=
  (World.carryOut_unheard _ h).2

end Operation

namespace Task

variable (outcomes : Channel → Outcome) (who : Party)

/-- What is left of a task when its present wait is over. -/
def remaining : Task → Operation
  | .ready op => op
  | .resting (.asleep _ _ _ next) => next
  | .resting (.listening channel _ _ next) => next (outcomes channel)
  | .ended outcome => .settled outcome

/-- The world that a task leaves. -/
def leaves (s : Task × Machine) : World := (s.1.remaining outcomes).leaves outcomes s.2.world

variable {outcomes} {result : Outcome × List Wait}

theorem leaves_follow {op : Operation} {m : Machine} {waits : List Wait}
    (h : op.Heads outcomes result m.world waits) :
    leaves outcomes ((m.follow who op).map Progress.task id) = op.leaves outcomes m.world := by
  induction op generalizing m waits with
  | settled outcome => rfl
  | act a next ih => exact ih _ (m := { m with world := (m.world.perform a).2 }) h.act
  | sleep ms held next ih =>
    rw [Machine.follow, Operation.leaves_sleep]
    by_cases hspent : m.allowance = 0
    · rw [if_pos hspent]
      exact congrArg (next.leaves outcomes) (m.world_postpone who)
    · rw [if_neg hspent]
      by_cases hms : ms = 0
      · rw [if_pos hms]
        exact ih (m := m.spend) h.sleep
      · rw [if_neg hms]
        rfl
  | receive channel held next ih =>
    rw [Machine.follow, Operation.leaves_receive]
    by_cases hspent : m.allowance = 0
    · rw [if_pos hspent]
      exact congrArg ((next (outcomes channel)).leaves outcomes) (m.world_postpone who)
    · rw [if_neg hspent]
      split
      · rename_i outcome hsent
        obtain rfl := h.sent_eq hsent
        exact ih _ (m := m.spend) h.receive
      · rfl

theorem leaves_poll {task : Task} {m : Machine} {began : Nat} {waits : List Wait}
    (h : task.Heads outcomes result m.world began waits) :
    leaves outcomes (task.poll who m) = leaves outcomes (task, m) := by
  cases h with
  | ready h => exact leaves_follow who h
  | @asleep deadline ticket held next _ hle h =>
    rw [poll, Machine.resume.eq_def]
    by_cases hspent : m.allowance = 0
    · rw [if_pos hspent]
      exact congrArg (next.leaves outcomes) (m.world_postpone who)
    · rw [if_neg hspent]
      simp only
      split
      · exact leaves_follow who (m := m.spend) h.sleep
      · cases ticket <;> rfl
  | @listening channel noticed held next _ h =>
    rw [poll, Machine.resume.eq_def]
    by_cases hspent : m.allowance = 0
    · rw [if_pos hspent]
      exact congrArg ((next (outcomes channel)).leaves outcomes) (m.world_postpone who)
    · rw [if_neg hspent]
      simp only
      split
      · rename_i outcome hsent
        obtain rfl := h.sent_eq hsent
        exact leaves_follow who (m := m.spend) h.receive
      · rfl
  | ended h => rfl

/-- Whatever happens, a task will leave the same world. -/
theorem leaves_after {s : Task × Machine} {began : Nat} {waits : List Wait}
    (h : s.1.Heads outcomes result s.2.world began waits) (happenings : List Happening) :
    leaves outcomes (after (poll who) outcomes happenings s) = leaves outcomes s := by
  induction happenings generalizing s began waits with
  | nil => rfl
  | cons happening later ih =>
    obtain ⟨began', waits', hnext, -⟩ := h.occur who happening
    refine (ih hnext).trans ?_
    cases happening with
    | pass ms => exact congrArg ((s.1.remaining outcomes).leaves outcomes) (s.2.world_advanceTo _).1
    | settle channel =>
      have hsettles := s.2.settles_send outcomes channel
      exact (Operation.leaves_congr outcomes hsettles.unheard _).symm
    | poll allowance => exact leaves_poll who (m := { s.2 with allowance := allowance }) h

end Task

/-- Polled in the machine, the operation ends with the outcome. It can end with a prompt clock, and
it does end if it has enough turns; and whenever it has ended, this is its outcome and it has left
the world, apart from what no act asks for. With a prompt clock it takes the milliseconds. -/
structure Operation.ComesTo (who : Party) (outcomes : Channel → Outcome) (op : Operation)
    (m : Machine) (outcome : Outcome) (ms : Nat) (left : World) : Prop where
  ends : ∃ happenings, Task.Punctual who outcomes happenings (.ready op, m) ∧
    (after (Task.poll who) outcomes happenings (.ready op, m)).1 = .ended outcome
  terminates : ∃ count, ∀ happenings, count ≤ Task.turns who outcomes happenings (.ready op, m) →
    (after (Task.poll who) outcomes happenings (.ready op, m)).1 = .ended outcome
  ended : ∀ happenings outcome',
    let polled := after (Task.poll who) outcomes happenings (.ready op, m)
    polled.1 = .ended outcome' →
      outcome' = outcome ∧ polled.2.world.unheard = left.unheard ∧
        (Task.Punctual who outcomes happenings (.ready op, m) → polled.2.now = m.now + ms)

/-- An operation that can have all that it waits for comes to what it comes to in one piece. -/
theorem Operation.Available.comesTo {outcomes : Channel → Outcome} {op : Operation} {m : Machine}
    (h : op.Available outcomes m.world) (who : Party) :
    op.ComesTo who outcomes m (m.world.carryOut (op.carriedOut outcomes [])).1.1
      (elapsed (m.world.carryOut (op.carriedOut outcomes [])).1.2)
      (m.world.carryOut (op.carriedOut outcomes [])).2 := by
  let started : Task × Machine := (.ready op, m)
  have hheads : started.1.Heads outcomes (m.world.carryOut (op.carriedOut outcomes [])).1
      started.2.world m.now [] := .ready ⟨h, rfl⟩
  have hontime : Task.OnTime outcomes (m.world.carryOut (op.carriedOut outcomes [])).1 m.now
      started [] := ⟨hheads, Nat.le_refl _, Nat.le_refl _⟩
  have hresult (happenings : List Happening) (outcome : Outcome)
      (hended : (after (Task.poll who) outcomes happenings started).1 = .ended outcome) :
      outcome = (m.world.carryOut (op.carriedOut outcomes [])).1.1 := by
    obtain ⟨began, waits, hafter⟩ := hheads.after who happenings
    exact hafter.outcome_eq hended
  let count := 1 + (m.world.carryOut (op.carriedOut outcomes [])).1.2.length
  have hturns (happenings : List Happening)
      (hcount : count ≤ Task.turns who outcomes happenings started) :
      (after (Task.poll who) outcomes happenings started).1 =
        .ended (m.world.carryOut (op.carriedOut outcomes [])).1.1 :=
    hheads.ended_of_turns who happenings (hcount.trans (Nat.le_add_left _ _))
  refine ⟨?_, ⟨count, hturns⟩,
    fun happenings outcome hended => ⟨hresult happenings outcome hended, ?_, fun hpunctual => ?_⟩⟩
  · obtain ⟨happenings, hpunctual, ⟨outcome, hended⟩ | hcount⟩ := hontime.exists_turns who count
    · exact ⟨happenings, hpunctual, hresult _ _ hended ▸ hended⟩
    · exact ⟨happenings, hpunctual, hturns happenings hcount⟩
  · have hleaves := Task.leaves_after who hheads happenings
    rw [Task.leaves, hended] at hleaves
    exact hleaves
  · exact hontime.ended who happenings hpunctual hended

/-! ## The loop -/

theorem UInt32.toNat_succ {n : UInt32} (h : n.toNat + 1 < UInt32.size) :
    (n + 1).toNat = n.toNat + 1 := by
  rw [UInt32.toNat_add, UInt32.toNat_one]
  exact Nat.mod_eq_of_lt h

namespace Operation

section

variable (r : StoreRequest) (backoff : Nat) (attempt : Operation)

/-- Repeats an attempt, of which `left` more may follow the attempt with the given number. -/
def retrying : (left : Nat) → (number : Nat) → Operation
  | 0, _ => attempt
  | left + 1, number =>
    attempt.andThen [] fun
      | .ok value => .settled (.ok value)
      | .error failure =>
        .reporting .warn "store call failed, retrying"
          [("method", r.method), ("attempt", toString number), ("error", failure.message)]
          fun _ => .sleep (backoff * number) [] (retrying left (number + 1))

/-- Repeats an attempt until it succeeds or its number has come to `attempts`. Numbers and pauses
are limited; `overflow` is what happens beyond the limits. -/
def retryingWithin (longest : Nat) (overflow : Operation) (attempts number : UInt32) : Operation :=
  attempt.andThen [] fun
    | .ok value => .settled (.ok value)
    | .error failure =>
      if _hmore : number < attempts then
        .reporting .warn "store call failed, retrying"
          [("method", r.method), ("attempt", toString number.toNat), ("error", failure.message)]
          fun _ =>
            if backoff * number.toNat ≤ longest then
              .sleep (backoff * number.toNat) []
                (if _hnext : number.toNat + 1 < UInt32.size then
                  retryingWithin longest overflow attempts (number + 1)
                else overflow)
            else overflow
      else .settled (.error failure)
termination_by attempts.toNat - number.toNat
decreasing_by
  have hlt : number.toNat < attempts.toNat := UInt32.lt_iff_toNat_lt.mp _hmore
  have hsucc := UInt32.toNat_succ _hnext
  omega

theorem andThen_settled (op : Operation) : op.andThen [] .settled = op := by
  induction op with
  | settled outcome => rfl
  | act a next ih => exact congrArg (Operation.act a) (funext ih)
  | sleep ms held next ih => rw [andThen, List.append_nil, ih]
  | receive channel held next ih =>
    rw [andThen, List.append_nil]
    exact congrArg (Operation.receive channel held) (funext ih)

variable {r backoff attempt} {longest : Nat} {attempts : UInt32}

/-- Within the limits nothing overflows. -/
theorem retryingWithin_eq (hlimit : backoff * (attempts.toNat - 1) ≤ longest)
    (overflow : Operation) {left : Nat} {number : UInt32}
    (hleft : number.toNat + left = attempts.toNat) :
    retryingWithin r backoff attempt longest overflow attempts number =
      retrying r backoff attempt left number.toNat := by
  induction left generalizing number with
  | zero =>
    have hlast : ¬ number < attempts := by
      rw [UInt32.lt_iff_toNat_lt]
      omega
    have hsettled : (fun outcome : Outcome => match outcome with
        | .ok value => Operation.settled (.ok value)
        | .error failure => .settled (.error failure)) = .settled := by
      funext outcome
      cases outcome <;> rfl
    rw [retryingWithin]
    simp only [dif_neg hlast]
    rw [hsettled, andThen_settled, retrying]
  | succ left ih =>
    have hmore : number < attempts := by
      rw [UInt32.lt_iff_toNat_lt]
      omega
    have hpause : backoff * number.toNat ≤ longest :=
      (Nat.mul_le_mul_left backoff (by omega)).trans hlimit
    have hnext : number.toNat + 1 < UInt32.size := by
      have hsize : attempts.toNat < UInt32.size := attempts.toNat_lt
      omega
    have hsucc := UInt32.toNat_succ hnext
    rw [retryingWithin, retrying]
    simp only [dif_pos hmore, if_pos hpause, dif_pos hnext]
    rw [ih (by omega), hsucc]

end

end Operation

/-! ## Attempts -/

/-- Of at most `most` attempts with the given outcomes, `count` are made: all before the last one
fail, and unless none is left, the last one succeeds. -/
structure Made (outcome : Nat → Outcome) (most count : Nat) : Prop where
  pos : 0 < count
  le : count ≤ most
  failed : ∀ i, i + 1 < count → ∃ failure, outcome i = .error failure
  last : count < most → ∃ v, outcome (count - 1) = .ok v

namespace Made

variable {outcome : Nat → Outcome} {most count count' : Nat}

theorem unique (h : Made outcome most count) (h' : Made outcome most count') : count = count' := by
  have hle {count count' : Nat} (h : Made outcome most count) (h' : Made outcome most count') :
      count' ≤ count := by
    by_contra hlt
    obtain ⟨v, hv⟩ := h.last (by have := h'.le; omega)
    obtain ⟨failure, hfailure⟩ := h'.failed (count - 1) (by have := h.pos; omega)
    rw [hv] at hfailure
    cases hfailure
  exact Nat.le_antisymm (hle h' h) (hle h h')

theorem one (h : 0 < most) (hlast : 1 < most → ∃ v, outcome 0 = .ok v) : Made outcome most 1 :=
  ⟨Nat.one_pos, h, fun i hi => by omega, hlast⟩

/-- One more attempt before the others, which fails. -/
theorem succ (h : Made (fun i => outcome (i + 1)) most count) {failure : Failure}
    (hfirst : outcome 0 = .error failure) : Made outcome (most + 1) (count + 1) where
  pos := Nat.succ_pos _
  le := Nat.succ_le_succ h.le
  failed i hi := by
    cases i with
    | zero => exact ⟨failure, hfirst⟩
    | succ i => exact h.failed i (by omega)
  last hlt := by
    obtain ⟨v, hv⟩ := h.last (by omega)
    have hindex : count + 1 - 1 = count - 1 + 1 := by have := h.pos; omega
    exact ⟨v, hindex ▸ hv⟩

theorem eq_most (h : Made outcome most count)
    (hfailed : ∀ i < most, ∃ failure, outcome i = .error failure) : count = most := by
  by_contra hne
  have hlt : count < most := Nat.lt_of_le_of_ne h.le hne
  obtain ⟨v, hv⟩ := h.last hlt
  obtain ⟨failure, hfailure⟩ := hfailed (count - 1) (by omega)
  rw [hv] at hfailure
  cases hfailure

end Made

namespace Operation

variable (outcomes : Channel → Outcome) (attempt : Operation)

/-- The world in which an attempt begins: those with smaller numbers have been made. -/
def begins : World → Nat → World
  | w, 0 => w
  | w, n + 1 => begins (w.carryOut (attempt.carriedOut outcomes [])).2 n

/-- What the attempt with a number comes to. -/
def outcomeAt (w : World) (n : Nat) : Outcome :=
  ((attempt.begins outcomes w n).carryOut (attempt.carriedOut outcomes [])).1.1

/-- How many milliseconds the attempt with a number takes. -/
def delayAt (w : World) (n : Nat) : Nat :=
  elapsed ((attempt.begins outcomes w n).carryOut (attempt.carriedOut outcomes [])).1.2

variable {outcomes attempt} {r : StoreRequest} {backoff left number : Nat} {w : World}

theorem Available.andThen {op : Operation} {held : List Claim} {next : Outcome → Operation}
    (h : op.Available outcomes w)
    (hnext : (next (w.carryOut (op.carriedOut outcomes [])).1.1).Available outcomes
      (w.carryOut (op.carriedOut outcomes [])).2) :
    (op.andThen held next).Available outcomes w := by
  induction op generalizing w with
  | settled outcome => exact hnext
  | act a rest ih => exact ih _ h hnext
  | sleep ms own rest ih =>
    rw [carriedOut, carryOut_carriedOut] at hnext
    exact ih h hnext
  | receive channel own rest ih =>
    rw [carriedOut, carryOut_carriedOut] at hnext
    exact ⟨h.1, ih _ h.2 hnext⟩

theorem carryOut_retrying_ok {v : Value} (hfirst : attempt.outcomeAt outcomes w 0 = .ok v) :
    w.carryOut ((retrying r backoff attempt (left + 1) number).carriedOut outcomes []) =
      w.carryOut (attempt.carriedOut outcomes []) := by
  rw [retrying, carriedOut_andThen, World.carryOut_bind]
  rcases hcarried : w.carryOut (attempt.carriedOut outcomes []) with ⟨⟨outcome, waits⟩, w₁⟩
  obtain rfl : outcome = .ok v := by
    rw [← hfirst, outcomeAt, begins, hcarried]
  rfl

/-- After a failure the loop goes on, in the world that the attempt has left. -/
theorem carryOut_retrying_error {failure : Failure}
    (hfirst : attempt.outcomeAt outcomes w 0 = .error failure) :
    let loop := (retrying r backoff attempt left (number + 1)).carriedOut outcomes []
    let later := (attempt.begins outcomes w 1).carryOut loop
    let whole := w.carryOut ((retrying r backoff attempt (left + 1) number).carriedOut outcomes [])
    whole.1.1 = later.1.1 ∧
      elapsed whole.1.2 = attempt.delayAt outcomes w 0 + backoff * number + elapsed later.1.2 ∧
      whole.2.unheard = later.2.unheard := by
  intro loop later whole
  rcases hcarried : w.carryOut (attempt.carriedOut outcomes []) with ⟨⟨outcome, waits⟩, w₁⟩
  obtain rfl : outcome = .error failure := by
    rw [← hfirst, outcomeAt, begins, hcarried]
  have hdelay : attempt.delayAt outcomes w 0 = elapsed waits := by rw [delayAt, begins, hcarried]
  have hbegins : attempt.begins outcomes w 1 = w₁ := by rw [begins, begins, hcarried]
  -- the report of the failure cannot be heard
  let event : Event := ⟨.warn, "store call failed, retrying",
    [("method", r.method), ("attempt", toString number), ("error", failure.message)], false⟩
  have hwhole : whole = (w₁.perform (.report event)).2.carryOut
      ((retrying r backoff attempt left (number + 1)).carriedOut outcomes
        (waits ++ [.pause (backoff * number)])) := by
    show w.carryOut _ = _
    rw [retrying, carriedOut_andThen, World.carryOut_bind, hcarried]
    rfl
  have hunheard : (w₁.perform (.report event)).2.unheard = w₁.unheard := rfl
  obtain ⟨hsame, hworld⟩ := World.carryOut_unheard loop hunheard
  rw [hwhole, carryOut_carriedOut, hdelay]
  show _ ∧ _ = elapsed waits + backoff * number + elapsed later.1.2 ∧ _
  rw [show later = w₁.carryOut loop from congrArg (World.carryOut · loop) hbegins, ← hsame,
    ← hworld]
  exact ⟨rfl, by simp [loop, elapsed, Wait.ms, Nat.add_assoc], rfl⟩

theorem available_retrying_ok {v : Value} (hfirst : attempt.outcomeAt outcomes w 0 = .ok v)
    (havailable : attempt.Available outcomes w) :
    (retrying r backoff attempt (left + 1) number).Available outcomes w := by
  refine havailable.andThen ?_
  rw [show (w.carryOut (attempt.carriedOut outcomes [])).1.1 = _ from hfirst]
  trivial

theorem available_retrying_error {failure : Failure}
    (hfirst : attempt.outcomeAt outcomes w 0 = .error failure)
    (havailable : attempt.Available outcomes w)
    (hlater : (retrying r backoff attempt left (number + 1)).Available outcomes
      (attempt.begins outcomes w 1)) :
    (retrying r backoff attempt (left + 1) number).Available outcomes w := by
  refine havailable.andThen ?_
  rw [show (w.carryOut (attempt.carriedOut outcomes [])).1.1 = _ from hfirst]
  -- the report of the failure settles nothing
  exact hlater.settles ⟨rfl, fun _ => .inl rfl⟩

/-- The first of some consecutive numbers, and the others. -/
theorem sum_range_add_of_pos {count : Nat} (h : 0 < count) (number : Nat) :
    ∑ i ∈ Finset.range count, (number + i) =
      number + ∑ i ∈ Finset.range (count - 1), (number + 1 + i) := by
  have hcount : count = count - 1 + 1 := by omega
  rw [hcount, Finset.sum_range_succ', Nat.add_sub_cancel, Nat.add_zero, Nat.add_comm]
  exact congrArg (number + ·) (Finset.sum_congr rfl fun i _ => by omega)

/-- What the loop comes to, by the attempts that are made. -/
theorem exists_made (r : StoreRequest) (backoff : Nat) (attempt : Operation) (left number : Nat)
    (w : World) :
    let loop := retrying r backoff attempt left number
    let ended := w.carryOut (loop.carriedOut outcomes [])
    ∃ count, Made (attempt.outcomeAt outcomes w) (left + 1) count ∧
      ended.1.1 = attempt.outcomeAt outcomes w (count - 1) ∧
      elapsed ended.1.2 = ∑ i ∈ Finset.range count, attempt.delayAt outcomes w i +
        backoff * ∑ i ∈ Finset.range (count - 1), (number + i) ∧
      ended.2.unheard = (attempt.begins outcomes w count).unheard ∧
      ((∀ i < count, attempt.Available outcomes (attempt.begins outcomes w i)) →
        loop.Available outcomes w) := by
  induction left generalizing number w with
  | zero =>
    refine ⟨1, .one Nat.one_pos (fun hlt => absurd hlt (Nat.lt_irrefl 1)), rfl, ?_, rfl,
      fun havailable => havailable 0 Nat.one_pos⟩
    simp [retrying, delayAt, begins]
  | succ left ih =>
    intro loop ended
    cases hfirst : attempt.outcomeAt outcomes w 0 with
    | ok v =>
      have hended : ended = w.carryOut (attempt.carriedOut outcomes []) :=
        carryOut_retrying_ok hfirst
      refine ⟨1, .one (Nat.succ_pos _) (fun _ => ⟨v, hfirst⟩), ?_, ?_, ?_, fun havailable => ?_⟩
      · rw [hended]; rfl
      · simp [hended, delayAt, begins]
      · rw [hended]; rfl
      · exact available_retrying_ok hfirst (havailable 0 Nat.one_pos)
    | error failure =>
      obtain ⟨houtcome, helapsed, hworld⟩ :=
        @carryOut_retrying_error _ _ r backoff left number _ _ hfirst
      obtain ⟨count, hmade, hlast, htime, hleft, havailable⟩ :=
        ih (number + 1) (attempt.begins outcomes w 1)
      have hindex : count = count - 1 + 1 := by have := hmade.pos; omega
      refine ⟨count + 1, hmade.succ hfirst, ?_, ?_, hworld.trans hleft, fun hall => ?_⟩
      · rw [houtcome, hlast, hindex]
        rfl
      · have hdelays := Finset.sum_range_succ' (attempt.delayAt outcomes w) count
        have hpauses := sum_range_add_of_pos hmade.pos number
        have hshift : ∑ i ∈ Finset.range count, attempt.delayAt outcomes
            (attempt.begins outcomes w 1) i =
              ∑ i ∈ Finset.range count, attempt.delayAt outcomes w (i + 1) := rfl
        rw [helapsed, htime, hdelays, Nat.add_sub_cancel, hpauses, hshift, Nat.mul_add]
        omega
      · exact available_retrying_error hfirst (hall 0 (Nat.succ_pos _))
          (havailable fun i hi => hall (i + 1) (Nat.succ_lt_succ hi))

end Operation

/-! ## Calls -/

/-- A call that is repeated around another store. Of the attempts, the first one included, none
counts as one. -/
def retryingCall (longest : Nat) (overflow : Operation) (inner : StoreRequest → Plan Pending)
    (attempts : UInt32) (backoff : Nat) (r : StoreRequest) : Operation :=
  .retryingWithin r backoff (.ofPlan (inner r) Pending.start) longest overflow (max attempts 1) 1

theorem UInt32.toNat_max_one (n : UInt32) : (max n 1).toNat = max n.toNat 1 := by
  show (if n ≤ 1 then 1 else n).toNat = _
  by_cases hle : n ≤ 1
  · have hnat : n.toNat ≤ 1 := UInt32.le_iff_toNat_le.mp hle
    rw [if_pos hle, Nat.max_eq_right hnat, UInt32.toNat_one]
  · have hnat : ¬ n.toNat ≤ 1 := fun h => hle (UInt32.le_iff_toNat_le.mpr h)
    rw [if_neg hle, Nat.max_eq_left (by omega)]

theorem retryingCall_eq {longest backoff : Nat} {attempts : UInt32}
    (hlimit : backoff * (attempts.toNat - 1) ≤ longest) (overflow : Operation)
    (inner : StoreRequest → Plan Pending) (r : StoreRequest) :
    retryingCall longest overflow inner attempts backoff r =
      .retrying r backoff (.ofPlan (inner r) Pending.start) (attempts.toNat - 1) 1 := by
  have hmax := UInt32.toNat_max_one attempts
  have hpred : max attempts.toNat 1 - 1 = attempts.toNat - 1 := by omega
  refine Operation.retryingWithin_eq ?_ overflow ?_
  · rwa [hmax, hpred]
  · rw [hmax, UInt32.toNat_one]
    omega

theorem Service.retrying_eq (s : Service) (r : StoreRequest) (backoff left number : Nat) :
    s.retrying r backoff left number = .retrying r backoff (s.once r) left number := by
  induction left generalizing number with
  | zero => rfl
  | succ left ih =>
    show (s.once r).andThen [] _ = (s.once r).andThen [] _
    refine congrArg (fun next => (s.once r).andThen [] next) (funext fun outcome => ?_)
    cases outcome with
    | ok value => rfl
    | error failure =>
      exact congrArg (fun later => Operation.reporting .warn _ _ fun _ => .sleep _ [] later)
        (ih (number + 1))

/-! ## Calls of a store in memory -/

namespace Store

variable {data : Store} {r : StoreRequest}

/-- The data after some attempts at a request. -/
def afterAttempts (data : Store) (r : StoreRequest) (n : Nat) : Store :=
  (fun data => (data.attempt r).2)^[n] data

theorem afterAttempts_succ (data : Store) (r : StoreRequest) (n : Nat) :
    data.afterAttempts r (n + 1) = ((data.afterAttempts r n).attempt r).2 :=
  Function.iterate_succ_apply' ..

/-- Each attempt uses up a failure that is due. -/
theorem afterAttempts_of_le {n : Nat} (h : n ≤ data.failures) :
    data.afterAttempts r n = { data with failures := data.failures - n } := by
  induction n with
  | zero => rfl
  | succ n ih =>
    have hdue : data.failures - n = data.failures - (n + 1) + 1 := by omega
    rw [afterAttempts_succ, ih (by omega), hdue]
    rfl

theorem attempt_afterAttempts_of_lt {n : Nat} (h : n < data.failures) :
    ((data.afterAttempts r n).attempt r).1 = .error r.unavailable := by
  have hdue : data.failures - n = data.failures - (n + 1) + 1 := by omega
  rw [afterAttempts_of_le (Nat.le_of_lt h), hdue]
  rfl

theorem attempt_afterAttempts_failures (data : Store) (r : StoreRequest) :
    (data.afterAttempts r data.failures).attempt r = execute { data with failures := 0 } r := by
  rw [afterAttempts_of_le (Nat.le_refl _), Nat.sub_self]
  rfl

/-- A request that cannot be understood changes nothing but the failures that are due. -/
theorem afterAttempts_of_rejects {failure : Failure} (hrejects : Rejects r failure) {n : Nat}
    (h : data.failures ≤ n) : data.afterAttempts r n = { data with failures := 0 } := by
  induction n, h using Nat.le_induction with
  | base => rw [afterAttempts_of_le (Nat.le_refl _), Nat.sub_self]
  | succ n hle ih =>
    rw [afterAttempts_succ, ih]
    show (execute { data with failures := 0 } r).2 = _
    rw [hrejects.2]

theorem attempt_afterAttempts_of_rejects {failure : Failure} (hrejects : Rejects r failure)
    {n : Nat} (h : data.failures ≤ n) :
    (data.afterAttempts r n).attempt r = (.error failure, { data with failures := 0 }) := by
  rw [afterAttempts_of_rejects hrejects h]
  exact hrejects.2 _

section

variable {most count : Nat}
  (h : Made (fun i => ((data.afterAttempts r i).attempt r).1) most count)

include h

/-- A request that can be understood succeeds as soon as no failure is due. -/
theorem made_of_accepts (haccepts : Accepts r) (hlt : data.failures < most) :
    count = data.failures + 1 := by
  obtain ⟨value, records, hexecute⟩ := haccepts
  have hvalue : ((data.afterAttempts r data.failures).attempt r).1 = .ok (value data.records) := by
    rw [attempt_afterAttempts_failures, hexecute]
  exact h.unique ⟨Nat.succ_pos _, hlt,
    fun i hi => ⟨_, attempt_afterAttempts_of_lt (Nat.lt_of_succ_lt_succ hi)⟩, fun _ => ⟨_, hvalue⟩⟩

theorem made_of_rejects {failure : Failure} (hrejects : Rejects r failure) : count = most :=
  h.eq_most fun i _ => by
    rcases Nat.lt_or_ge i data.failures with hbefore | hafter
    · exact ⟨_, attempt_afterAttempts_of_lt hbefore⟩
    · exact ⟨failure, by rw [attempt_afterAttempts_of_rejects hrejects hafter]⟩

/-- What attempts at a request come to, and the failures that are still due. -/
theorem made :
    ((data.afterAttempts r (count - 1)).attempt r).1 =
        (if data.failures < most then (data.execute r).1 else .error r.unavailable) ∧
      (data.afterAttempts r count).failures = data.failures - min data.failures most := by
  have hpos := h.pos
  by_cases hlt : data.failures < most
  · rw [if_pos hlt, Nat.min_eq_left (Nat.le_of_lt hlt), Nat.sub_self]
    rcases execute_cases r with haccepts | ⟨failure, hrejects⟩
    · obtain rfl := made_of_accepts h haccepts hlt
      obtain ⟨value, records, hexecute⟩ := haccepts
      rw [Nat.add_sub_cancel, afterAttempts_succ, attempt_afterAttempts_failures, hexecute,
        hexecute]
      exact ⟨rfl, rfl⟩
    · obtain rfl := made_of_rejects h hrejects
      rw [attempt_afterAttempts_of_rejects hrejects (by omega),
        afterAttempts_of_rejects hrejects (Nat.le_of_lt hlt), hrejects.2]
      exact ⟨rfl, rfl⟩
  · have hle : most ≤ data.failures := Nat.le_of_not_lt hlt
    have hall : count = most := h.eq_most fun i hi =>
      ⟨_, attempt_afterAttempts_of_lt (Nat.lt_of_lt_of_le hi hle)⟩
    rw [if_neg hlt, hall, Nat.min_eq_right hle, afterAttempts_of_le hle,
      attempt_afterAttempts_of_lt (by omega)]
    exact ⟨rfl, rfl⟩

end

end Store

/-! ## What calls come to -/

theorem Operation.ComesTo.left_congr {who : Party} {outcomes : Channel → Outcome} {op : Operation}
    {m : Machine} {outcome : Outcome} {ms : Nat} {left left' : World}
    (h : op.ComesTo who outcomes m outcome ms left) (hleft : left.unheard = left'.unheard) :
    op.ComesTo who outcomes m outcome ms left' where
  ends := h.ends
  terminates := h.terminates
  ended happenings outcome' hended := by
    obtain ⟨houtcome, hworld, htime⟩ := h.ended happenings outcome' hended
    exact ⟨houtcome, hworld.trans hleft, htime⟩

/-- Each pause is longer by the back-off than the one before. -/
theorem Operation.comesTo_retrying (attempt : Operation) (r : StoreRequest) (backoff left : Nat)
    (who : Party) (outcomes : Channel → Outcome) (m : Machine) :
    ∃ count, Made (attempt.outcomeAt outcomes m.world) (left + 1) count ∧
      ((∀ i < count, attempt.Available outcomes (attempt.begins outcomes m.world i)) →
        (retrying r backoff attempt left 1).ComesTo who outcomes m
          (attempt.outcomeAt outcomes m.world (count - 1))
          (∑ i ∈ Finset.range count, attempt.delayAt outcomes m.world i +
            backoff * ∑ i ∈ Finset.range count, i)
          (attempt.begins outcomes m.world count)) := by
  obtain ⟨count, hmade, houtcome, htime, hleft, havailable⟩ :=
    @exists_made outcomes r backoff attempt left 1 m.world
  refine ⟨count, hmade, fun hall => ?_⟩
  have hpauses : ∑ i ∈ Finset.range (count - 1), (1 + i) = ∑ i ∈ Finset.range count, i := by
    simpa using (sum_range_add_of_pos hmade.pos 0).symm
  rw [← houtcome, ← hpauses, ← htime]
  exact ((havailable hall).comesTo who).left_congr hleft

namespace Service

variable {s : Service} {r : StoreRequest} {data : Store} {w : World}

/-- How many attempts a call makes at most. -/
def most (s : Service) : Nat :=
  match s.retry with
  | none => 1
  | some retry => max retry.attempts 1

/-- The pause after the first attempt, in milliseconds. Without retries there is none. -/
def backoff (s : Service) : Nat := (s.retry.map Retry.backoff).getD 0

theorem call_eq (s : Service) (r : StoreRequest) :
    (s.call r).start = .retrying r s.backoff (s.once r) (s.most - 1) 1 := by
  rw [call, most, backoff]
  cases s.retry with
  | none => rfl
  | some retry =>
    have hpred : max retry.attempts 1 - 1 = retry.attempts - 1 := by omega
    rw [hpred]
    exact s.retrying_eq r retry.backoff (retry.attempts - 1) 1

theorem most_pos (s : Service) : 0 < s.most := by
  rw [most]
  cases s.retry with
  | none => exact Nat.one_pos
  | some retry => exact Nat.lt_of_lt_of_le Nat.one_pos (Nat.le_max_right ..)

/-- An attempt waits for the latency and executes the request. -/
theorem carryOut_once (outcomes : Channel → Outcome) (h : w.stores.lookup s.store = some data) :
    w.carryOut ((s.once r).carriedOut outcomes []) =
      (((data.attempt r).1, s.latency.toList.map .pause),
        { w with stores := World.rebind w.stores s.store (data.attempt r).2 }) := by
  have hattempt (waits : List Wait) : w.carryOut
      ((Operation.act (.attempt s.store r) .settled).carriedOut outcomes waits) =
        (((data.attempt r).1, waits),
          { w with stores := World.rebind w.stores s.store (data.attempt r).2 }) := by
    show ((((w.perform (.attempt s.store r)).1, waits), (w.perform (.attempt s.store r)).2)) = _
    rw [World.perform_attempt h]
    rfl
  rw [once]
  cases s.latency with
  | none => exact hattempt []
  | some ms => exact hattempt [.pause ms]

theorem available_once (outcomes : Channel → Outcome) (w : World) :
    (s.once r).Available outcomes w := by
  rw [once]
  cases s.latency <;> trivial

/-- Each attempt finds the store as the attempts before it have left it. -/
theorem lookup_begins (outcomes : Channel → Outcome) (h : w.stores.lookup s.store = some data)
    (n : Nat) : ((s.once r).begins outcomes w n).stores.lookup s.store =
      some (data.afterAttempts r n) := by
  induction n generalizing w data with
  | zero => exact h
  | succ n ih =>
    rw [Operation.begins, carryOut_once outcomes h]
    exact ih (World.lookup_rebind h _)

theorem outcomeAt_once (outcomes : Channel → Outcome) (h : w.stores.lookup s.store = some data)
    (n : Nat) : (s.once r).outcomeAt outcomes w n = ((data.afterAttempts r n).attempt r).1 := by
  rw [Operation.outcomeAt, carryOut_once outcomes (lookup_begins outcomes h n)]

theorem delayAt_once (outcomes : Channel → Outcome) (h : w.stores.lookup s.store = some data)
    (n : Nat) : (s.once r).delayAt outcomes w n = s.latency.getD 0 := by
  rw [Operation.delayAt, carryOut_once outcomes (lookup_begins outcomes h n)]
  cases s.latency <;> rfl

/-- A call of a store in memory uses up the failures that are due, as many as it makes attempts. -/
theorem comesTo_call {m : Machine} (h : m.world.stores.lookup s.store = some data)
    (r : StoreRequest) (who : Party) (outcomes : Channel → Outcome) :
    ∃ count left, Made (fun i => ((data.afterAttempts r i).attempt r).1) s.most count ∧
      (s.call r).start.ComesTo who outcomes m
        (if data.failures < s.most then (data.execute r).1 else .error r.unavailable)
        (count * s.latency.getD 0 + s.backoff * ∑ i ∈ Finset.range count, i) left ∧
      ∃ data', left.stores.lookup s.store = some data' ∧
        data'.failures = data.failures - min data.failures s.most := by
  obtain ⟨count, hmade, hcomes⟩ :=
    (s.once r).comesTo_retrying r s.backoff (s.most - 1) who outcomes m
  have hmost : s.most - 1 + 1 = s.most := by have := s.most_pos; omega
  rw [hmost, show (s.once r).outcomeAt outcomes m.world = _ from
    funext (outcomeAt_once outcomes h)] at hmade
  have hends := hcomes fun i _ => available_once outcomes _
  obtain ⟨houtcome, hfailures⟩ := Store.made hmade
  have hdelays : ∑ i ∈ Finset.range count, (s.once r).delayAt outcomes m.world i =
      count * s.latency.getD 0 := by
    rw [Finset.sum_const_nat fun i _ => delayAt_once outcomes h i, Finset.card_range]
  rw [← call_eq, outcomeAt_once outcomes h, houtcome, hdelays] at hends
  exact ⟨count, _, hmade, hends, _, lookup_begins outcomes h count, hfailures⟩

end Service

/-! ## The configured store -/

/-- The longest pause that there is, in milliseconds. -/
def longestDuration : Nat := 18446744073709551615999

namespace Config

theorem backoff_le_longestDuration (attempts : UInt32) :
    backoff * (attempts.toNat - 1) ≤ longestDuration := by
  have hlt := attempts.toNat_lt
  rw [backoff, longestDuration]
  omega

theorem call_service (c : Config) (name : String) {attempts : UInt32}
    (h : c.store.retries = attempts.toNat) (overflow : Operation) (r : StoreRequest) :
    ((c.service name).call r).start =
      retryingCall longestDuration overflow (fun r => .done ⟨[], (c.service name).once r⟩) attempts
        backoff r := by
  rw [retryingCall_eq (backoff_le_longestDuration attempts)]
  show (c.service name).retrying r backoff (c.store.retries - 1) 1 = _
  rw [Service.retrying_eq, h]
  rfl

end Config

/-- **A call is repeated until an attempt succeeds or all attempts have been made.**

*Any store.* A call that is repeated around another store, at most `attempts` times, makes `count`
attempts: that is the number of the first one that succeeds, or if none does, the number of all of
them, which is at least one. All attempts ask for the same: how the other store treats other
requests does not matter. If each attempt can have what it waits for, the call comes to an end,
with the outcome of its last attempt; with a prompt clock it takes the delays of its attempts and,
between them, once the back-off, twice the back-off and so on. This holds with whatever happens if
the numbers or the pauses overflow, as the longest pause is within the limit.

*A store in memory.* The call of a store with failures that are due makes attempts at its request
and does nothing else to the store. It takes the latency for each attempt, and the pauses. It comes
to what the request comes to if there are more attempts than failures, else to a failure; so a
request that would succeed returns its value exactly if there are more attempts. The failures that
are left are those that no attempt has used up.

*The configured store.* It is such a store in memory, and for any number of attempts its pauses are
within the limit, so that nothing overflows. -/
theorem call_repeats_until_success (who : Party) (outcomes : Channel → Outcome) (m : Machine)
    (r : StoreRequest) :
    (∀ (longest backoff : Nat) (overflow : Operation) (inner : StoreRequest → Plan Pending)
        (attempts : UInt32), backoff * (attempts.toNat - 1) ≤ longest →
      let attempt := Operation.ofPlan (inner r) Pending.start
      let call := retryingCall longest overflow inner attempts backoff r
      (∀ inner' : StoreRequest → Plan Pending, inner' r = inner r →
        retryingCall longest overflow inner' attempts backoff r = call) ∧
      ∃ count, Made (attempt.outcomeAt outcomes m.world) (max attempts.toNat 1) count ∧
        ((∀ i < count, attempt.Available outcomes (attempt.begins outcomes m.world i)) →
          call.ComesTo who outcomes m (attempt.outcomeAt outcomes m.world (count - 1))
            (∑ i ∈ Finset.range count, attempt.delayAt outcomes m.world i +
              backoff * ∑ i ∈ Finset.range count, i)
            (attempt.begins outcomes m.world count))) ∧
    (∀ (s : Service) (data : Store), m.world.stores.lookup s.store = some data →
      Operation.Attempting s.store r (s.call r).start ∧
      ∃ count outcome left, Made (fun i => ((data.afterAttempts r i).attempt r).1) s.most count ∧
        (s.call r).start.ComesTo who outcomes m outcome
          (count * s.latency.getD 0 + s.backoff * ∑ i ∈ Finset.range count, i) left ∧
        outcome = (if data.failures < s.most then (data.execute r).1 else .error r.unavailable) ∧
        (∀ v, (data.execute r).1 = .ok v → (outcome = .ok v ↔ data.failures < s.most)) ∧
        ∃ data', left.stores.lookup s.store = some data' ∧
          data'.failures = data.failures - min data.failures s.most) ∧
    (∀ attempts : UInt32, Config.backoff * (attempts.toNat - 1) ≤ longestDuration ∧
      ∀ (c : Config) (name : String) (overflow : Operation), c.store.retries = attempts.toNat →
        ((c.service name).call r).start = retryingCall longestDuration overflow
          (fun r => .done ⟨[], (c.service name).once r⟩) attempts Config.backoff r) := by
  refine ⟨fun longest backoff overflow inner attempts hlimit => ?_, fun s data h => ?_,
    fun attempts => ⟨Config.backoff_le_longestDuration attempts,
      fun c name overflow h => c.call_service name h overflow r⟩⟩
  · intro attempt call
    obtain ⟨count, hmade, hcomes⟩ :=
      attempt.comesTo_retrying r backoff (attempts.toNat - 1) who outcomes m
    have hmost : attempts.toNat - 1 + 1 = max attempts.toNat 1 := by omega
    refine ⟨fun inner' hsame => ?_, count, hmost ▸ hmade, fun havailable => ?_⟩
    · show retryingCall longest overflow inner' attempts backoff r = _
      rw [retryingCall, hsame]
      rfl
    · rw [show call = _ from retryingCall_eq hlimit overflow inner r]
      exact hcomes havailable
  · obtain ⟨count, left, hmade, hcomes, hleft⟩ := Service.comesTo_call h r who outcomes
    refine ⟨s.attempting_call r, count, _, left, hmade, hcomes, rfl, fun v hvalue => ?_, hleft⟩
    by_cases hlt : data.failures < s.most
    · rw [if_pos hlt]
      exact iff_of_true hvalue hlt
    · rw [if_neg hlt]
      exact iff_of_false nofun hlt

/-- Three attempts that fail after five milliseconds each, with a back-off of fifty, take 165. A
store in memory with two failures due answers the third attempt, after 150, and no failure is left.
And three attempts are within the limits of the configured store. -/
theorem call_repeats_three_times :
    let r : StoreRequest := ⟨"load", [.str "a"]⟩
    let failure : Failure := .handler "db" "gone"
    let failing : StoreRequest → Plan Pending := fun _ =>
      .done ⟨[], .sleep 5 [] (.settled (.error failure))⟩
    let s : Service := ⟨"main", none, some ⟨3, 50⟩⟩
    let m : Machine := { world := { stores := [("main", ⟨[("a", .str "1")], 2⟩)] } }
    let c : Config := ⟨"", "", 0, 3, []⟩
    (retryingCall 150 (.settled (.ok .null)) failing 3 50 r).ComesTo .foreground
      (fun _ => .ok .null) m (.error failure) 165 m.world ∧
    (∃ left, (s.call r).start.ComesTo .foreground (fun _ => .ok .null) m (.ok (.str "1")) 150 left ∧
      ∃ data', left.stores.lookup "main" = some data' ∧ data'.failures = 0) ∧
    ((c.service "main").call r).start = retryingCall longestDuration (.settled (.ok .null))
      (fun r => .done ⟨[], (c.service "main").once r⟩) 3 Config.backoff r := by
  intro r failure failing s m c
  obtain ⟨hany, hmemory, hconfigured⟩ :=
    call_repeats_until_success .foreground (fun _ => .ok .null) m r
  obtain ⟨-, count, hmade, hcomes⟩ := hany 150 50 (.settled (.ok .null)) failing 3 (by decide)
  obtain ⟨-, tries, outcome, left, htries, hends, houtcome, -, hleft⟩ := hmemory s _ rfl
  have hfailed (i : Nat) :
      (Operation.ofPlan (failing r) Pending.start).outcomeAt (fun _ => .ok .null) m.world i =
        .error failure := rfl
  obtain rfl : count = 3 := hmade.eq_most fun i _ => ⟨failure, hfailed i⟩
  obtain rfl : tries = 3 := htries.unique ⟨by decide, by decide,
    fun
      | 0, _ | 1, _ => ⟨r.unavailable, rfl⟩
      | i + 2, hi => absurd hi (by omega),
    fun hlt => absurd hlt (by decide)⟩
  obtain rfl : outcome = .ok (.str "1") := houtcome
  exact ⟨hcomes fun i _ => trivial, ⟨left, hends, hleft⟩, (hconfigured 3).2 c "main" _ rfl⟩

end Effects
