import Mathlib.Data.List.Chain
import Effects.Proofs.Polling

/-!
# The bridge in time

The bridge drives a process through waits that take time, as one operation that is polled until it
ends. It is related to two other ways of driving the process. With `answering` the synchronous
driver answers a wait by what its operation comes to, in one piece; the bridge has the same result,
and takes as long as the pauses on the way. And `Loop` is the loop of the bridge with its places
kept apart: it shows, poll by poll, what the bridge does, and a journal of it is kept.
-/

namespace Effects

/-! ## Operations that go on -/

/-- A resting operation that goes on with its outcome. -/
def Resting.andThen (held : List Claim) (next : Outcome → Operation) : Resting → Resting
  | asleep deadline ticket own rest =>
    .asleep deadline ticket (own ++ held) (rest.andThen held next)
  | listening channel noticed own rest =>
    .listening channel noticed (own ++ held) fun outcome => (rest outcome).andThen held next

namespace Machine

/-- Goes on with what has become of an operation. -/
def goOn (who : Party) (held : List Claim) (next : Outcome → Operation) :
    Progress × Machine → Progress × Machine
  | (.ended outcome, m) => m.follow who (next outcome)
  | (.resting r, m) => (.resting (r.andThen held next), m)

theorem follow_andThen (who : Party) (held : List Claim) (next : Outcome → Operation)
    (op : Operation) (m : Machine) :
    m.follow who (op.andThen held next) = goOn who held next (m.follow who op) := by
  induction op generalizing m with
  | settled outcome => rfl
  | act a rest ih => exact ih _ _
  | sleep ms own rest ih =>
    rw [Operation.andThen, follow, follow]
    split
    · rfl
    · split
      · exact ih _
      · rfl
  | receive channel own rest ih =>
    rw [Operation.andThen, follow, follow]
    split
    · rfl
    · split
      · exact ih _ _
      · rfl

theorem resume_andThen (who : Party) (held : List Claim) (next : Outcome → Operation)
    (r : Resting) (m : Machine) :
    m.resume who (r.andThen held next) = goOn who held next (m.resume who r) := by
  rw [resume.eq_def, resume.eq_def]
  split
  · rfl
  · cases r with
    | asleep deadline ticket own rest =>
      simp only [Resting.andThen]
      split
      · exact follow_andThen who held next rest m.spend
      · cases ticket <;> rfl
    | listening channel noticed own rest =>
      simp only [Resting.andThen]
      split
      · exact follow_andThen who held next _ m.spend
      · rfl

/-- Carries out a plan in the world of a machine. -/
def during {α : Type} (m : Machine) (plan : Plan α) : α × Machine :=
  ((m.world.carryOut plan).1, { m with world := (m.world.carryOut plan).2 })

theorem follow_ofPlan {α : Type} (who : Party) (plan : Plan α) (next : α → Operation)
    (m : Machine) :
    m.follow who (.ofPlan plan next) = (m.during plan).2.follow who (next (m.during plan).1) := by
  induction plan generalizing m with
  | done a => rfl
  | act a rest ih => exact ih _ _

theorem follow_releasing (who : Party) (claims : List Claim) (next : Unit → Operation)
    (m : Machine) :
    m.follow who (.releasing claims next) =
      (m.during (Plan.release claims)).2.follow who (next ()) := by
  cases claims <;> rfl

theorem follow_reporting (who : Party) (level : Level) (message : String)
    (fields : List (String × String)) (next : Unit → Operation) (m : Machine) :
    m.follow who (.reporting level message fields next) =
      (m.during (Plan.report level message fields)).2.follow who (next ()) := rfl

end Machine

/-! ## The loop of the bridge -/

/-- What the loop of the bridge does. The waits are numbered in the order in which they are
yielded. -/
inductive Entry where
  /-- The process is advanced, after `n` waits. -/
  | advanced (n : Nat) (input : Value)
  /-- The operation that the wait with the number `n` is for is polled. -/
  | polled (n : Nat)
  /-- This operation has settled. -/
  | settled (n : Nat) (outcome : Outcome)

/-- Where the loop of the bridge stands between two polls. -/
inductive Loop where
  /-- Before the first poll. -/
  | fresh (c : Process)
  /-- At the wait with the number `n`, for the operation that rests, on behalf of the process. -/
  | waiting (n : Nat) (r : Resting) (rest : Process)
  | ended (outcome : Outcome)

namespace Loop

/-- The loop with its journal, and the machine in which it runs. -/
abbrev State := (Loop × List Entry) × Machine

/-- Ends the loop and gives up claims. -/
def stop (outcome : Outcome) (claims : List Claim) (journal : List Entry) (m : Machine) : State :=
  ((.ended outcome, journal), (m.during (Plan.release claims)).2)

/-- Goes on after the operation of a wait has been polled, as the journal says: to `next`, if it has
settled with a value. -/
def polled (n : Nat) (rest : Process) (next : Value → List Entry → Machine → State)
    (journal : List Entry) : Progress × Machine → State
  | (.resting r, m) => ((.waiting n r rest, journal), m)
  | (.ended (.ok value), m) => next value (journal ++ [.settled n (.ok value)]) m
  | (.ended (.error failure), m) =>
    stop (.error (.asyncFailure failure)) rest.held (journal ++ [.settled n (.error failure)])
      (m.during (Plan.report .debug "pending operation failed" [("error", failure.message)])).2

end Loop

section

variable (who : Party)

mutual

/-- The loop from an advance of the process on, after `n` waits. -/
def Process.looped : Process → Nat → Value → List Entry → Machine → Loop.State
  | .spent held, n, input, journal, m =>
    Loop.stop (.error .alreadyCompleted) held (journal ++ [.advanced n input]) m
  | .paused _ resume, n, input, journal, m =>
    (resume input).looped n (journal ++ [.advanced n input]) m

/-- The loop from within an advance on. -/
def Run.looped : Run → Nat → List Entry → Machine → Loop.State
  | .act a next, n, journal, m =>
    (next (m.world.perform a).1).looped n journal { m with world := (m.world.perform a).2 }
  | .completed value rest, _, journal, m => Loop.stop (.ok value) rest.held journal m
  | .failed failure rest, _, journal, m => Loop.stop (.error failure) rest.held journal m
  | .suspended kind payload rest, n, journal, m =>
    if kind = .wait then
      match payload.toFuture kind with
      | .ok pending =>
        Loop.polled n rest (fun value journal m => rest.looped (n + 1) value journal m)
          (journal ++ [.polled n])
          ((m.during (Plan.report .debug "awaiting pending operation" [])).2.follow who
            pending.start)
      | .error failure => Loop.stop (.error failure) (payload.held ++ rest.held) journal m
    else
      Loop.stop (.error (m.during kind.unhandled).1) (payload.held ++ rest.held) journal
        (m.during kind.unhandled).2

end

/-- Polls the loop. -/
def Loop.poll (m : Machine) : Loop × List Entry → Loop.State
  | (.fresh c, journal) => c.looped who 0 .null journal m
  | (.waiting n r rest, journal) =>
    Loop.polled n rest (fun value journal m => rest.looped who (n + 1) value journal m)
      (journal ++ [.polled n]) (m.resume who r)
  | (.ended outcome, journal) => ((.ended outcome, journal), m)

end

namespace Loop

/-- What the bridge does with the outcome of a wait. -/
def resumed (rest : Process) : Outcome → Operation
  | .ok value => rest.awaited value
  | .error failure =>
    .reporting .debug "pending operation failed" [("error", failure.message)] fun _ =>
      .releasing rest.held fun _ => .settled (.error (.asyncFailure failure))

/-- The bridge at the same place as the loop. -/
def task : Loop → Task
  | .fresh c => .ready c.bridge.start
  | .waiting _ r rest => .resting (r.andThen rest.held (resumed rest))
  | .ended outcome => .ended outcome

/-- The bridge and the machine in a state of the loop. -/
def State.bridged (s : State) : Task × Machine := (s.1.1.task, s.2)

end Loop

theorem Process.awaited_eq (p : Process) (v : Value) : p.awaited v = (p.advance v).awaited := by
  cases p <;> rfl

theorem Process.looped_eq (who : Party) (p : Process) (n : Nat) (v : Value) (journal : List Entry)
    (m : Machine) :
    p.looped who n v journal m = (p.advance v).looped who n (journal ++ [.advanced n v]) m := by
  cases p <;> rfl

/-- After a poll the loop goes on in the same way as the bridge. -/
theorem Loop.bridged_polled (who : Party) (n : Nat) (rest : Process)
    {next : Value → List Entry → Machine → State}
    (hnext : ∀ v journal m,
      (next v journal m).bridged = (m.follow who (rest.awaited v)).map Progress.task id)
    (journal : List Entry) (progress : Progress × Machine) :
    (Loop.polled n rest next journal progress).bridged =
      (Machine.goOn who rest.held (resumed rest) progress).map Progress.task id := by
  match progress with
  | (.resting r, m) => rfl
  | (.ended (.ok value), m) => exact hnext value _ m
  | (.ended (.error failure), m) =>
    rw [Machine.goOn, resumed, Machine.follow_reporting, Machine.follow_releasing]
    rfl

theorem Run.bridged_looped (who : Party) (r : Run) (n : Nat) (journal : List Entry) (m : Machine) :
    (r.looped who n journal m).bridged = (m.follow who r.awaited).map Progress.task id := by
  induction r using Run.induct generalizing n journal m with
  | act a next ih => exact ih _ n journal _
  | completed v rest =>
    rw [Run.awaited, Machine.follow_releasing]
    rfl
  | failed failure rest =>
    rw [Run.awaited, Machine.follow_releasing]
    rfl
  | suspended kind payload rest ih =>
    rw [Run.looped, Run.awaited]
    by_cases hkind : kind = .wait
    · rw [if_pos hkind, if_pos hkind]
      cases hfuture : payload.toFuture kind with
      | ok pending =>
        simp only
        rw [Machine.follow_reporting, Machine.follow_andThen]
        refine Loop.bridged_polled who n rest (fun v journal m => ?_) _ _
        rw [Process.looped_eq, Process.awaited_eq]
        exact ih v _ _ _
      | error failure =>
        simp only
        rw [Machine.follow_releasing]
        rfl
    · rw [if_neg hkind, if_neg hkind, Machine.follow_ofPlan, Machine.follow_releasing]
      rfl

theorem Process.bridged_looped (who : Party) (p : Process) (n : Nat) (v : Value)
    (journal : List Entry) (m : Machine) :
    (p.looped who n v journal m).bridged = (m.follow who (p.awaited v)).map Progress.task id := by
  rw [Process.looped_eq, Process.awaited_eq]
  exact Run.bridged_looped who _ n _ m

namespace Loop

/-- A poll of the loop is a poll of the bridge. -/
theorem bridged_poll (who : Party) (m : Machine) (loop : Loop × List Entry) :
    (poll who m loop).bridged = loop.1.task.poll who m := by
  match loop with
  | (.fresh c, journal) => exact c.bridged_looped who 0 .null journal m
  | (.waiting n r rest, journal) =>
    rw [task, Task.poll, Machine.resume_andThen]
    exact bridged_polled who n rest
      (fun v journal m => rest.bridged_looped who (n + 1) v journal m) _ _
  | (.ended outcome, journal) => rfl

/-- Whatever happens, the bridge is where the loop is. -/
theorem bridged_after (who : Party) (outcomes : Channel → Outcome) (happenings : List Happening)
    (s : State) :
    State.bridged (after (poll who) outcomes happenings s) =
      after (Task.poll who) outcomes happenings s.bridged := by
  induction happenings generalizing s with
  | nil => rfl
  | cons happening later ih =>
    refine (ih _).trans (congrArg (after (Task.poll who) outcomes later) ?_)
    cases happening with
    | poll allowance => exact bridged_poll who _ s.1
    | pass ms | settle channel => rfl

end Loop

/-! ## The journal -/

/-- What the journal says next. -/
inductive Entry.Then : Entry → Entry → Prop where
  | polled (n : Nat) (input : Value) : Then (.advanced n input) (.polled n)
  | again (n : Nat) : Then (.polled n) (.polled n)
  | settled (n : Nat) (outcome : Outcome) : Then (.polled n) (.settled n outcome)
  | resumed (n : Nat) (value : Value) : Then (.settled n (.ok value)) (.advanced (n + 1) value)

/-- The number of the wait that an entry is about; for an advance, of the wait that it may lead
to. -/
def Entry.number : Entry → Nat
  | advanced n _ => n
  | polled n => n
  | settled n _ => n

theorem Entry.Then.number_le {entry next : Entry} (h : entry.Then next) :
    entry.number ≤ next.number := by
  cases h with
  | polled | again | settled => exact Nat.le_refl _
  | resumed n value => exact Nat.le_succ n

/-- The process is advanced for a start. Then one wait comes after the other, and each is for an
operation that is polled until it settles. If it settles with a value, the process is advanced with
this value; a failure is the last entry. -/
structure Orderly (journal : List Entry) : Prop where
  head : ∀ entry ∈ journal.head?, entry = .advanced 0 .null
  chain : journal.IsChain Entry.Then

namespace Orderly

variable {journal before later : List Entry} {entry last next : Entry} {n : Nat}

theorem nil : Orderly [] := ⟨nofun, .nil⟩

theorem first : Orderly [.advanced 0 .null] := ⟨by simp, .singleton _⟩

theorem snoc (h : Orderly journal) (hlast : journal.getLast? = some last)
    (hthen : last.Then next) : Orderly (journal ++ [next]) := by
  refine ⟨fun entry hentry => ?_, ?_⟩
  · cases journal with
    | nil => cases hlast
    | cons first journal => exact h.head entry hentry
  · refine List.isChain_append.mpr ⟨h.chain, .singleton next, ?_⟩
    rintro x hx y hy
    obtain rfl : last = x := by simpa [hlast] using hx
    obtain rfl : next = y := by simpa using hy
    exact hthen

/-- The next operation is not polled, and the code before the next wait does not run, until the
present operation has settled with a value. -/
theorem settled_before (h : Orderly (before ++ entry :: later)) (hnumber : entry.number = n + 1) :
    ∃ value, Entry.settled n (.ok value) ∈ before := by
  induction before using List.reverseRecOn generalizing entry later with
  | nil =>
    obtain rfl : entry = .advanced 0 .null := h.head entry rfl
    cases hnumber
  | append_singleton before last ih =>
    rw [List.append_assoc] at h
    have hthen : last.Then entry := (List.isChain_append_cons_cons.mp h.chain).2.1
    have hearlier : last.number = n + 1 → ∃ value, Entry.settled n (.ok value) ∈ before ++ [last] :=
      fun hlast => by
        obtain ⟨value, hmem⟩ := ih h hlast
        exact ⟨value, List.mem_append_left _ hmem⟩
    cases hthen with
    | polled | again | settled => exact hearlier hnumber
    | resumed m value =>
      obtain rfl : m = n := Nat.succ.inj hnumber
      exact ⟨value, by simp⟩

/-- The operations are polled in the order of the waits. -/
theorem sorted (h : Orderly journal) : (journal.map Entry.number).Pairwise (· ≤ ·) := by
  have hmono := List.isChain_map_of_isChain Entry.number (fun _ _ => Entry.Then.number_le) h.chain
  exact List.isChain_iff_pairwise.mp hmono

/-- After a failure nothing happens. -/
theorem nil_of_failed {failure : Failure}
    (h : Orderly (before ++ .settled n (.error failure) :: later)) : later = [] := by
  cases later with
  | nil => rfl
  | cons entry later => cases (List.isChain_append_cons_cons.mp h.chain).2.1

end Orderly

namespace Loop

/-- The journal is orderly and has come to where the loop stands. -/
def Keeps : Loop × List Entry → Prop
  | (.fresh _, journal) => journal = []
  | (.waiting n _ _, journal) => Orderly journal ∧ journal.getLast? = some (.polled n)
  | (.ended _, journal) => Orderly journal

theorem keeps_polled {n : Nat} {rest : Process} {next : Value → List Entry → Machine → State}
    (hnext : ∀ v journal m, Orderly journal → journal.getLast? = some (.settled n (.ok v)) →
      Keeps (next v journal m).1)
    {journal : List Entry} (h : Orderly journal) (hlast : journal.getLast? = some (.polled n))
    (progress : Progress × Machine) : Keeps (polled n rest next journal progress).1 := by
  match progress with
  | (.resting r, m) => exact ⟨h, hlast⟩
  | (.ended (.ok value), m) =>
    exact hnext value _ m (h.snoc hlast (.settled n _)) List.getLast?_concat
  | (.ended (.error failure), m) => exact h.snoc hlast (.settled n _)

theorem keeps_looped (who : Party) {r : Run} {n : Nat} {input : Value} {journal : List Entry}
    (m : Machine) (h : Orderly journal) (hlast : journal.getLast? = some (.advanced n input)) :
    Keeps (r.looped who n journal m).1 := by
  induction r using Run.induct generalizing n input journal m with
  | act a next ih => exact ih _ _ h hlast
  | completed v rest => exact h
  | failed failure rest => exact h
  | suspended kind payload rest ih =>
    rw [Run.looped]
    by_cases hkind : kind = .wait
    · rw [if_pos hkind]
      cases payload.toFuture kind with
      | ok pending =>
        refine keeps_polled ?_ (h.snoc hlast (.polled n input)) List.getLast?_concat _
        intro v journal m h hlast
        rw [Process.looped_eq]
        exact ih v m (h.snoc hlast (.resumed n v)) List.getLast?_concat
      | error failure => exact h
    · rw [if_neg hkind]
      exact h

/-- A poll of the loop keeps the journal orderly. -/
theorem keeps_poll (who : Party) {loop : Loop × List Entry} (m : Machine) (h : Keeps loop) :
    Keeps (poll who m loop).1 := by
  match loop, h with
  | (.fresh c, journal), h =>
    obtain rfl : journal = [] := h
    rw [poll, Process.looped_eq]
    exact keeps_looped who m .first rfl
  | (.waiting n r rest, journal), ⟨h, hlast⟩ =>
    refine keeps_polled ?_ (h.snoc hlast (.again n)) List.getLast?_concat _
    intro v journal m h hlast
    rw [Process.looped_eq]
    exact keeps_looped who m (h.snoc hlast (.resumed n v)) List.getLast?_concat
  | (.ended outcome, journal), h => exact h

theorem Keeps.orderly {loop : Loop × List Entry} (h : Keeps loop) : Orderly loop.2 := by
  match loop, h with
  | (.fresh c, journal), h => exact h ▸ .nil
  | (.waiting n r rest, journal), h => exact h.1
  | (.ended outcome, journal), h => exact h

theorem Keeps.after (who : Party) (outcomes : Channel → Outcome) (happenings : List Happening)
    {s : State} (h : Keeps s.1) : Keeps (after (poll who) outcomes happenings s).1 := by
  induction happenings generalizing s with
  | nil => exact h
  | cons happening later ih =>
    refine ih ?_
    cases happening with
    | poll allowance => exact keeps_poll who _ h
    | pass ms | settle channel => exact h

end Loop

/-! ## The driver that is answered from outside -/

/-- Answers commands for the synchronous driver: a wait by what its operation comes to, with the
waits of the operation, and everything else by a failure. -/
def answering (outcomes : Channel → Outcome) : Responder (List Wait) := fun waits command =>
  if command.kind = .wait then
    match command.payload.toFuture command.kind with
    | .ok pending =>
      (pending.start.carriedOut outcomes waits).bind fun (outcome, waits) =>
        .done (outcome.mapError .asyncFailure, waits)
    | .error failure =>
      (Plan.release command.payload.held).bind fun _ => .done (.error failure, waits)
  else
    command.kind.unhandled.bind fun failure =>
      (Plan.release command.payload.held).bind fun _ => .done (.error failure, waits)

section

variable (outcomes : Channel → Outcome)

theorem Operation.carriedOut_ofPlan {α : Type} (plan : Plan α) (next : α → Operation)
    (waits : List Wait) :
    (Operation.ofPlan plan next).carriedOut outcomes waits =
      plan.bind fun a => (next a).carriedOut outcomes waits := by
  induction plan with
  | done a => rfl
  | act a rest ih => exact congrArg (Plan.act a) (funext ih)

theorem Operation.carriedOut_releasing (claims : List Claim) (next : Unit → Operation)
    (waits : List Wait) :
    (Operation.releasing claims next).carriedOut outcomes waits =
      (Plan.release claims).bind fun _ => (next ()).carriedOut outcomes waits := by
  cases claims <;> rfl

/-- An operation that ends after it has given up claims. -/
theorem World.carryOut_releasing (w : World) (claims : List Claim) (outcome : Outcome)
    (waits : List Wait) :
    w.carryOut ((Operation.releasing claims fun _ => .settled outcome).carriedOut outcomes waits) =
      ((outcome, waits), w.release claims) := by
  cases claims <;> rfl

theorem Process.answeredBy_eq {σ : Type} (respond : Responder σ) (p : Process) (state : σ)
    (v : Value) : p.answeredBy respond state v = (p.advance v).answeredBy respond state := by
  cases p <;> rfl

/-- Answered from outside, a run comes to the same result as on the bridge, by the same waits. -/
theorem Run.carryOut_awaited (r : Run) {w w' : World} (hw : w.unheard = w'.unheard)
    (waits : List Wait) :
    (w.carryOut (r.awaited.carriedOut outcomes waits)).1 =
      (w'.carryOut (r.answeredBy (answering outcomes) waits)).1 := by
  induction r using Run.induct generalizing w w' waits with
  | act a next ih =>
    obtain ⟨hanswer, hworld⟩ := World.unheard_perform hw a
    rw [Run.awaited, Run.answeredBy, Operation.carriedOut, World.carryOut_act, World.carryOut_act,
      hanswer]
    exact ih _ hworld waits
  | completed v rest => simp [Run.awaited, Run.answeredBy, World.carryOut_releasing]
  | failed failure rest => simp [Run.awaited, Run.answeredBy, World.carryOut_releasing]
  | suspended kind payload rest ih =>
    by_cases hkind : kind = .wait
    · subst hkind
      cases payload with
      | future pending =>
        -- the report of the bridge cannot be heard, so the operation comes to the same
        let reported := (w.perform (.report ⟨.debug, "awaiting pending operation", [], false⟩)).2
        obtain ⟨hsame, hafter⟩ := World.carryOut_unheard (pending.start.carriedOut outcomes waits)
          (w := reported) hw
        have hawaited : w.carryOut ((Run.suspended .wait (.future pending) rest).awaited.carriedOut
            outcomes waits) = reported.carryOut
              ((pending.start.andThen rest.held (Loop.resumed rest)).carriedOut outcomes waits) :=
          rfl
        have hanswered : answering outcomes waits ⟨.wait, .future pending⟩ =
            (pending.start.carriedOut outcomes waits).bind fun (outcome, waits) =>
              .done (outcome.mapError .asyncFailure, waits) := rfl
        rw [hawaited, Operation.carriedOut_andThen, World.carryOut_bind, hsame, Run.answeredBy,
          hanswered, World.carryOut_bind, World.carryOut_bind]
        generalize w'.carryOut (pending.start.carriedOut outcomes waits) = ended at hafter
        obtain ⟨⟨failure | value, waits⟩, w''⟩ := ended
        · have hstopped (w : World) := World.carryOut_releasing outcomes w rest.held
            (.error (.asyncFailure failure)) waits
          refine (congrArg Prod.fst (hstopped _)).trans ?_
          simp [Except.mapError]
        · have hrest := ih value hafter waits
          rw [← Process.awaited_eq, ← Process.answeredBy_eq] at hrest
          exact hrest
      | none | value v | body held enter =>
        simp [Run.awaited, Run.answeredBy, answering, Payload.toFuture, World.carryOut_releasing]
    · rw [Run.awaited, if_neg hkind, Operation.carriedOut_ofPlan, World.carryOut_bind,
        World.carryOut_releasing, (World.carryOut_unheard kind.unhandled hw).1]
      simp [Run.answeredBy, answering, hkind]

end

/-- The bridge is on its way to what the driver that is answered from outside returns. -/
theorem Process.heads_bridge {outcomes : Channel → Outcome} {c : Process} {w : World}
    (havailable : c.bridge.start.Available outcomes w) :
    c.bridge.start.Heads outcomes (w.carryOut (c.driveWith (answering outcomes) [])).1 w [] := by
  refine ⟨havailable, ?_⟩
  show (w.carryOut ((c.awaited .null).carriedOut outcomes [])).1 =
    (w.carryOut (c.answeredBy (answering outcomes) [] .null)).1
  rw [Process.awaited_eq, Process.answeredBy_eq]
  exact Run.carryOut_awaited outcomes _ rfl []

/-- **The bridge is the driver with awaited answers.** Let the outcomes of the deferred operations
be given, and let the process be bridged in a world in which none of those that it waits for gets
lost. Then the bridge has the result with which the driver returns when each wait is answered by
what its operation comes to. It can be brought to this end with a prompt clock; and whatever
happens, it has no other result, it ends if it has enough turns, and with a prompt clock it takes as
long as all pauses of the operations awaited. All the while it is where its loop is: the operations
are awaited in the order of the waits, the process goes on to the next wait only after the present
operation has settled with a value, and nothing happens after one has failed. -/
theorem bridge_drives_with_awaited_answers (who : Party) (outcomes : Channel → Outcome)
    {c : Process} {m : Machine} (havailable : c.bridge.start.Available outcomes m.world) :
    let driven := (m.world.carryOut (c.driveWith (answering outcomes) [])).1
    let started : Task × Machine := (.ready c.bridge.start, m)
    (∃ happenings, Task.Punctual who outcomes happenings started ∧
      (after (Task.poll who) outcomes happenings started).1 = .ended driven.1) ∧
    ∀ happenings,
      let bridged := after (Task.poll who) outcomes happenings started
      let looped := after (Loop.poll who) outcomes happenings ((.fresh c, []), m)
      let journal := looped.1.2
      (∀ outcome, bridged.1 = .ended outcome → outcome = driven.1) ∧
      (driven.2.length < Task.turns who outcomes happenings started →
        bridged.1 = .ended driven.1) ∧
      (Task.Punctual who outcomes happenings started → ∀ outcome, bridged.1 = .ended outcome →
        bridged.2.now = m.now + elapsed driven.2) ∧
      (looped.1.1.task = bridged.1 ∧ looped.2 = bridged.2) ∧
      Orderly journal ∧ (journal.map Entry.number).Pairwise (· ≤ ·) ∧
      (∀ before entry later n, journal = before ++ entry :: later → entry.number = n + 1 →
        ∃ value, Entry.settled n (.ok value) ∈ before) ∧
      ∀ before n failure later, journal = before ++ .settled n (.error failure) :: later →
        later = [] := by
  intro driven started
  have hheads : started.1.Heads outcomes driven started.2.world m.now [] :=
    .ready (Process.heads_bridge havailable)
  have hontime : Task.OnTime outcomes driven m.now started [] :=
    ⟨hheads, Nat.le_refl _, Nat.le_refl _⟩
  have hresult : ∀ happenings outcome,
      (after (Task.poll who) outcomes happenings started).1 = .ended outcome →
      outcome = driven.1 := by
    intro happenings outcome hended
    obtain ⟨began, waits, hafter⟩ := hheads.after who happenings
    exact hafter.outcome_eq hended
  have hturns : ∀ happenings, driven.2.length < Task.turns who outcomes happenings started →
      (after (Task.poll who) outcomes happenings started).1 = .ended driven.1 := by
    intro happenings hcount
    refine hheads.ended_of_turns who happenings ?_
    show 1 + driven.2.length ≤ 0 + Task.turns who outcomes happenings started
    omega
  refine ⟨?_, fun happenings => ⟨hresult happenings, hturns happenings, ?_, ?_⟩⟩
  · obtain ⟨happenings, hpunctual, ⟨outcome, hended⟩ | hcount⟩ :=
      hontime.exists_turns who (driven.2.length + 1)
    · exact ⟨happenings, hpunctual, hresult _ _ hended ▸ hended⟩
    · exact ⟨happenings, hpunctual, hturns _ hcount⟩
  · exact fun hpunctual outcome hended => hontime.ended who happenings hpunctual hended
  · have hbridged := Loop.bridged_after who outcomes happenings ((.fresh c, []), m)
    have hkeeps : Loop.Keeps (Loop.fresh c, []) := rfl
    have horderly := (hkeeps.after (s := ((.fresh c, []), m)) who outcomes happenings).orderly
    refine ⟨⟨congrArg Prod.fst hbridged, congrArg Prod.snd hbridged⟩, horderly, horderly.sorted,
      ?_, ?_⟩
    · exact fun before entry later n hjournal hnumber =>
        (hjournal ▸ horderly).settled_before hnumber
    · exact fun before n failure later hjournal => (hjournal ▸ horderly).nil_of_failed

/-- A pause, and then a deferred operation that fails: the code after it does not run, and only the
pause takes time. -/
theorem bridge_of_pause_and_failure :
    let pause : Pending := ⟨[], .sleep 30 [] (.settled (.ok .null))⟩
    let c := (awaiting pause).andThen fun _ => .done ((awaiting (.deferred ⟨0⟩)).andThen fun _ =>
      .done (.perform (.tag "log") .none))
    let m : Machine := { world := { channels := #[.open] } }
    ∃ happenings,
      let bridged := after (Task.poll .foreground) (fun _ => .error .abandoned) happenings
        (.ready c.bridge.start, m)
      bridged.1 = .ended (.error (.asyncFailure .abandoned)) ∧ bridged.2.now = 30 := by
  intro pause c m
  have havailable : c.bridge.start.Available (fun _ => .error .abandoned) m.world :=
    ⟨.inl rfl, trivial⟩
  obtain ⟨⟨happenings, hpunctual, hended⟩, hall⟩ :=
    bridge_drives_with_awaited_answers .foreground (fun _ => .error .abandoned) havailable
  obtain ⟨-, -, htime, -⟩ := hall happenings
  exact ⟨happenings, hended, htime hpunctual _ hended⟩

end Effects
