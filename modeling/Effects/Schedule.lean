import Effects.World

/-!
# Virtual time

One foreground operation and any number of background tasks share a world and a clock. Nothing takes
time but pauses: when the foreground and all tasks rest, the clock jumps to the next end of a pause.
Tasks go on only while the foreground rests, in the order in which they became ready; pauses that
end together wake their tasks in the order in which they were begun.

Nobody can keep the others waiting for long. In one turn a party completes at most `turnAllowance`
waits; the next wait is postponed to its next turn, even if it would be over at once. And after a
round of `roundSize` tasks the foreground has its turn.
-/

namespace Effects

/-- Whose turn it can be. -/
inductive Party where
  | foreground
  /-- The background task with a number. -/
  | task (id : Nat)
deriving DecidableEq, Repr

/-- Where an operation rests. -/
inductive Resting where
  /-- A pause that ends at an instant. The ticket orders pauses by their beginning; a pause that has
  been postponed has none. -/
  | asleep (deadline : Nat) (ticket : Option Nat) (held : List Claim) (next : Operation)
  /-- A wait for a deferred outcome, whose sending is noticed unless the wait has been postponed. -/
  | listening (channel : Channel) (noticed : Bool) (held : List Claim) (next : Outcome → Operation)

/-- The claims that are given up when a resting operation is dropped. -/
def Resting.held : Resting → List Claim
  | asleep _ _ held _ => held
  | listening _ _ held _ => held

/-- What became of an operation that was followed as far as it went. -/
inductive Progress where
  /-- It has ended. -/
  | ended (outcome : Outcome)
  /-- It rests. -/
  | resting (r : Resting)

/-- A background task. -/
inductive Task where
  /-- The task has not had a turn yet. -/
  | ready (op : Operation)
  /-- The task rests. -/
  | resting (r : Resting)
  /-- The task has ended. -/
  | ended (outcome : Outcome)

/-- What the foreground waits for. -/
inductive Foreground where
  /-- The end of an operation. -/
  | operation (r : Resting)
  /-- The end of a task. -/
  | task (id : Nat)

/-- How many waits a party can complete in one turn. -/
def turnAllowance : Nat := 128

/-- How many tasks have a turn before the foreground has one. -/
def roundSize : Nat := 61

/-- A world with a clock and background tasks. -/
structure Machine where
  /-- What tasks and foreground share. -/
  world : World := {}
  /-- Milliseconds since the beginning. -/
  now : Nat := 0
  /-- How many pauses have begun. -/
  tickets : Nat := 0
  /-- How many waits can still be completed in the present turn. -/
  allowance : Nat := turnAllowance
  /-- The background tasks, by number. -/
  tasks : Array Task := #[]
  /-- The tasks that wait for their turn, in the order in which they began to. -/
  queue : List Nat := []
  /-- Those with a postponed wait, the last one first. -/
  postponed : List Party := []

namespace Machine

/-! ## Turns -/

/-- Postpones a wait of a party. -/
def postpone (m : Machine) (who : Party) : Machine :=
  if m.postponed.head? = some who then m else { m with postponed := who :: m.postponed }

/-- Counts a completed wait. -/
def spend (m : Machine) : Machine := { m with allowance := m.allowance - 1 }

/-- Begins a turn. -/
def beginTurn (m : Machine) : Machine := { m with allowance := turnAllowance }

/-- Follows an operation of a party until it ends or has to rest. -/
def follow (m : Machine) (who : Party) : Operation → Progress × Machine
  | .settled outcome => (.ended outcome, m)
  | .act a next =>
    let (answer, world) := m.world.perform a
    { m with world := world }.follow who (next answer)
  | .sleep ms held next =>
    if m.allowance = 0 then
      (.resting (.asleep (m.now + ms) none held next), m.postpone who)
    else if ms = 0 then m.spend.follow who next
    else
      (.resting (.asleep (m.now + ms) (some m.tickets) held next),
        { m with tickets := m.tickets + 1 })
  | .receive channel held next =>
    if m.allowance = 0 then (.resting (.listening channel false held next), m.postpone who)
    else
      match m.world.channelState channel with
      | .sent outcome => m.spend.follow who (next outcome)
      | _ => (.resting (.listening channel true held next), m)

/-- Goes on with the resting operation of a party, if what it waits for has happened. -/
def resume (m : Machine) (who : Party) (r : Resting) : Progress × Machine :=
  if m.allowance = 0 then (.resting r, m.postpone who)
  else
    match r with
    | .asleep deadline ticket held next =>
      if deadline ≤ m.now then m.spend.follow who next
      else
        match ticket with
        | some _ => (.resting r, m)
        | none =>
          (.resting (.asleep deadline (some m.tickets) held next),
            { m with tickets := m.tickets + 1 })
    | .listening channel _ held next =>
      match m.world.channelState channel with
      | .sent outcome => m.spend.follow who (next outcome)
      | _ => (.resting (.listening channel true held next), m)

/-- The outcome of a task that has ended. -/
def taskOutcome? (m : Machine) (id : Nat) : Option Outcome :=
  match m.tasks[id]? with
  | some (.ended outcome) => some outcome
  | _ => none

/-- Lets the foreground go on, if it can. -/
def proceed (m : Machine) : Foreground → (Outcome ⊕ Foreground) × Machine
  | .operation r =>
    match m.resume .foreground r with
    | (.ended outcome, m) => (.inl outcome, m)
    | (.resting r, m) => (.inr (.operation r), m)
  | .task id =>
    if m.allowance = 0 then (.inr (.task id), m.postpone .foreground)
    else
      match m.taskOutcome? id with
      | some outcome => (.inl outcome, m.spend)
      | none => (.inr (.task id), m)

/-! ## Tasks -/

/-- Queues a task, unless it is queued already. -/
def enqueue (m : Machine) (id : Nat) : Machine :=
  if m.queue.contains id then m else { m with queue := m.queue ++ [id] }

/-- Starts an operation in the background. -/
def spawn (m : Machine) (p : Pending) : Nat × Machine :=
  (m.tasks.size, { m with tasks := m.tasks.push (.ready p.start) }.enqueue m.tasks.size)

/-- Notes how far a task has come. -/
def setTask (m : Machine) (id : Nat) : Progress → Machine
  | .ended outcome => { m with tasks := m.tasks.setIfInBounds id (.ended outcome) }
  | .resting r => { m with tasks := m.tasks.setIfInBounds id (.resting r) }

/-- Gives a task its turn. -/
def runTask (m : Machine) (id : Nat) : Machine :=
  match m.tasks[id]? with
  | some (.ready op) =>
    let (progress, m) := m.beginTurn.follow (.task id) op
    m.setTask id progress
  | some (.resting r) =>
    let (progress, m) := m.beginTurn.resume (.task id) r
    m.setTask id progress
  | _ => m

/-- Gives queued tasks their turns, in order, and tells how many more could have had one. -/
def runTasks : (count : Nat) → Machine → Nat × Machine
  | 0, m => (0, m)
  | count + 1, m =>
    match m.queue with
    | [] => (count + 1, m)
    | id :: queue => runTasks count ({ m with queue := queue }.runTask id)

/-- Queues the tasks with postponed waits, the last one first. -/
def wakePostponed (m : Machine) : Machine :=
  m.postponed.foldl
    (fun m who =>
      match who with
      | .task id => m.enqueue id
      | .foreground => m)
    { m with postponed := [] }

/-- Sends an outcome over a channel: whether anybody can still hear it. A task that listens to the
channel is queued. -/
def send (m : Machine) (channel : Channel) (outcome : Outcome) : Bool × Machine :=
  match m.world.channelState channel with
  | .open =>
    let world :=
      { m.world with channels := m.world.channels.setIfInBounds channel.id (.sent outcome) }
    let listener? := (List.range m.tasks.size).find? fun (id : Nat) =>
      match m.tasks[id]? with
      | some (.resting (.listening heard noticed _ _)) => noticed && heard = channel
      | _ => false
    match listener? with
    | some id => (true, { m with world := world }.enqueue id)
    | none => (true, { m with world := world })
  | _ => (false, m)

/-! ## The clock -/

/-- The end of the pause that an operation rests in, with its ticket. -/
def deadline? : Resting → Option (Nat × Nat)
  | .asleep deadline (some ticket) _ _ => some (deadline, ticket)
  | _ => none

/-- The pauses of the tasks: number, deadline and ticket. -/
def pauses (m : Machine) : List (Nat × Nat × Nat) :=
  (List.range m.tasks.size).filterMap fun (id : Nat) =>
    match m.tasks[id]? with
    | some (.resting r) => (deadline? r).map fun pause => (id, pause)
    | _ => none

/-- The tasks whose pause is over, in the order in which the pauses began. -/
def expired (m : Machine) : List Nat :=
  let ended := m.pauses.filter fun (_, deadline, _) => deadline ≤ m.now
  (ended.mergeSort fun a b => a.2.2 ≤ b.2.2).map (·.1)

/-- Moves the clock and queues the tasks whose pause is over. -/
def advanceTo (m : Machine) (instant : Nat) : Machine :=
  let m := { m with now := instant }
  m.expired.foldl enqueue m

/-- Whether what the foreground waits for has happened. -/
def isDue (m : Machine) : Foreground → Bool
  | .operation (.asleep deadline _ _ _) => deadline ≤ m.now
  | .operation (.listening channel _ _ _) =>
    match m.world.channelState channel with
    | .sent _ => true
    | _ => false
  | .task id => (m.taskOutcome? id).isSome

/-- The next instant after the present at which something happens by itself, at most `limit`. -/
def nextInstant (m : Machine) (waiting : Foreground) (limit : Nat) : Nat :=
  let own :=
    match waiting with
    | .operation r => (deadline? r).toList.map (·.1)
    | .task _ => []
  ((own ++ m.pauses.map (·.2.1)).filter fun d => m.now < d).foldl min limit

/-- What happens after a round of tasks, before the foreground has its turn: if there were more
tasks than a round has, or waits are postponed, those who postponed theirs are queued. Else, if
nothing else can happen, the clock moves. -/
def settleRound (m : Machine) (left : Nat) (waiting : Foreground) (limit : Nat) : Machine :=
  if left = 0 || m.postponed ≠ [] then m.wakePostponed
  else if m.isDue waiting then m
  else m.advanceTo (m.nextInstant waiting limit)

/-! ## Waiting -/

/-- Waits, for some number of rounds, until the foreground ends or the clock reaches `limit`. In the
latter case what is still waited for is returned. -/
def waitUntil (limit : Nat) : (rounds : Nat) → Foreground → Machine →
    (Outcome ⊕ Foreground) × Machine
  | 0, waiting, m => (.inr waiting, m)
  | rounds + 1, waiting, m =>
    let (left, m) := m.runTasks roundSize
    match (m.settleRound left waiting limit).beginTurn.proceed waiting with
    | (.inl outcome, m) => (.inl outcome, m)
    | (.inr still, m) => if limit ≤ m.now then (.inr still, m) else waitUntil limit rounds still m

/-- More rounds than any wait takes: each of them completes a wait or moves the clock. -/
def maxRounds : Nat := 1000000000000

/-- Waits until the foreground ends or the clock reaches `limit`. -/
def wait (m : Machine) (waiting : Foreground) (limit : Nat) : (Outcome ⊕ Foreground) × Machine :=
  match m.proceed waiting with
  | (.inl outcome, m) => (.inl outcome, m)
  | (.inr still, m) => waitUntil limit maxRounds still m

/-- How long the foreground waits for anything: three hundred days. -/
def patience : Nat := 25920000000

end Machine

end Effects
