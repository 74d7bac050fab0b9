import Effects.Schedule
import Effects.Script.Blueprint

/-!
# Sessions

A session keeps processes, stacks, operations and tasks under names and works on them one step at a
time. Each step has a reply, and what was noted, logged and reported during the step is shown with
it. Whatever a step replaces or removes is dropped, which gives up what it held.
-/

namespace Effects.Script

/-- An operation kept by a session. -/
inductive Bridge where
  /-- It has not been polled yet. -/
  | unstarted (p : Pending)
  /-- It rests. -/
  | resting (r : Resting)

/-- The claims that are given up when the operation is dropped. -/
def Bridge.held : Bridge → List Claim
  | unstarted p => p.held
  | resting r => r.held

/-- The state of a session. -/
structure Session where
  /-- World, clock and tasks. -/
  machine : Machine := {}
  /-- The ways to reach the stores. -/
  services : List (String × Service) := []
  /-- Processes at rest. -/
  processes : List (String × Process) := []
  /-- Stacks of layers. -/
  layerings : List (String × Stack) := []
  /-- Operations that are polled by hand. -/
  bridges : List (String × Bridge) := []
  /-- The settling halves of deferred operations. -/
  resolvers : List (String × Channel) := []
  /-- Tasks that have not been joined. -/
  handles : List (String × Nat) := []

/-- Which layers a step applies. -/
inductive LayerChoice where
  /-- The layers listed. -/
  | given (layers : List LayerPlan)
  /-- A stack kept under a name. -/
  | named (name : String)

/-- Which process a step works on. -/
inductive Subject where
  /-- A process that is built for the step. -/
  | built (b : Blueprint)
  /-- A process kept under a name, which is taken out. -/
  | kept (name : String)

/-- How a process is run. -/
inductive Mode where
  /-- By the synchronous driver. -/
  | drive
  /-- As an operation in the foreground. -/
  | bridge
  /-- As a task in the background, which is waited for. -/
  | spawn
  /-- By answering its commands from a list. -/
  | answers (list : List (Expr ⊕ FailureExpr))

/-- One step of a session. -/
inductive Op where
  | stack (name : String) (layers : List LayerPlan)
  | kind (layer : LayerPlan)
  | new (name : String) (b : Blueprint) (layers : LayerChoice)
  | advance (name : String) (v : Expr)
  | drain (name : String) (vs : List Expr) (max : Nat)
  | drop (name : String)
  | run (subject : Subject) (layers : LayerChoice) (mode : Mode)
  | token (name : String)
  | sameToken (a b : String)
  | compareKinds (a b : KindName)
  | deferred (name : String)
  | settle (name : String) (outcome : Expr ⊕ FailureExpr)
  | abandon (name : String)
  | await (f : FuturePlan)
  | bridge (name : String) (subject : Subject) (layers : LayerChoice)
  | poll (name : String)
  | spawn (name : String) (subject : Subject) (layers : LayerChoice)
  | finished (name : String)
  | join (name : String)
  | sleep (ms : Nat)
  | call (service : String) (method args : Expr)
  | failNext (store : String) (n : Nat)
  | size (store : String)

/-- What is shown of a payload. -/
inductive ShownPayload where
  | none
  | value (v : Value)
  | future
  | body

/-- What is shown of a payload. -/
def ShownPayload.of : Payload → ShownPayload
  | .none => .none
  | .value v => .value v
  | .future _ => .future
  | .body _ _ => .body

/-- What is shown of a command. -/
structure ShownCommand where
  /-- The kind of the command. -/
  kind : Kind
  /-- Its parameter. -/
  payload : ShownPayload

/-- What is shown of a command. -/
def ShownCommand.of (c : Command) : ShownCommand := ⟨c.kind, .of c.payload⟩

/-- What is shown of an advance. -/
inductive ShownStep where
  | suspended (c : ShownCommand)
  | completed (v : Value)
  | failed (failure : Failure)

/-- What a step replies. -/
inductive Reply where
  /-- The step was done. -/
  | ok
  /-- What the step names does not exist. -/
  | gone
  /-- The operation has not ended. -/
  | pending
  /-- Nothing. -/
  | nothing
  | flag (b : Bool)
  | outcome (o : Outcome)
  /-- An outcome, with the commands that were answered on the way. -/
  | answered (o : Outcome) (seen : List ShownCommand)
  | step (s : ShownStep)
  | steps (s : List ShownStep)
  /-- A size, and whether it is zero. -/
  | extent (size : Nat) (isEmpty : Bool)
  | kind (k : Kind)
  /-- A token, and whether its scope is running. -/
  | token (t : Token) (isOpen : Bool)
  /-- Whether two kinds are equal, whether a command of the first is of the second, and whether each
  is an escape. -/
  | comparison (equal isOfKind first second : Bool)

/-- Work on a session. -/
abbrev SessionM := StateM Session

namespace Session

/-! ## The parts of a session -/

/-- The environment of blueprints that stand in no other: only published names are known. -/
def env (s : Session) : Env := { services := s.services }

/-- Works on the machine. -/
def onMachine {α : Type} (f : Machine → α × Machine) : SessionM α := fun s =>
  let (a, machine) := f s.machine
  (a, { s with machine := machine })

/-- Works on the world. -/
def onWorld {α : Type} (f : World → α × World) : SessionM α :=
  onMachine fun m => let (a, world) := f m.world; (a, { m with world := world })

/-- Carries out a plan. -/
def carryOut {α : Type} (plan : Plan α) : SessionM α := onWorld fun w => w.carryOut plan

/-- Gives up claims. -/
def release (claims : List Claim) : SessionM Unit := onWorld fun w => ((), w.release claims)

/-- Removes a name from a table: what was bound to it, and the table without it. -/
def takeOut {α : Type} (table : List (String × α)) (name : String) :
    Option α × List (String × α) :=
  (table.lookup name, table.filter fun entry => entry.1 ≠ name)

/-- Takes out the process kept under a name. -/
def takeProcess (name : String) : SessionM (Option Process) := do
  let s ← get
  let (found, processes) := takeOut s.processes name
  set { s with processes := processes }
  return found

/-- Keeps a process under a name. The process that was kept there is dropped. -/
def keepProcess (name : String) (p : Process) : SessionM Unit := do
  if let some old ← takeProcess name then release old.held
  modify fun s => { s with processes := (name, p) :: s.processes }

/-- Takes out the operation kept under a name. -/
def takeBridge (name : String) : SessionM (Option Bridge) := do
  let s ← get
  let (found, bridges) := takeOut s.bridges name
  set { s with bridges := bridges }
  return found

/-- Keeps an operation under a name. The operation that was kept there is dropped. -/
def keepBridge (name : String) (b : Bridge) : SessionM Unit := do
  if let some old ← takeBridge name then release old.held
  modify fun s => { s with bridges := (name, b) :: s.bridges }

/-- Takes out the settling half kept under a name. -/
def takeResolver (name : String) : SessionM (Option Channel) := do
  let s ← get
  let (found, resolvers) := takeOut s.resolvers name
  set { s with resolvers := resolvers }
  return found

/-- Settles the deferred operation whose settling half is kept under a name. -/
def send (name : String) (outcome : Outcome) : SessionM (Option Bool) := do
  match ← takeResolver name with
  | some channel => return some (← onMachine fun m => m.send channel outcome)
  | none => return none

/-- Drops the settling half kept under a name, and tells whether there was one. -/
def dropResolver (name : String) : SessionM Bool := do
  return (← send name (.error .abandoned)).isSome

/-- Drops the receiving half that is offered under a name, and tells whether there was one. -/
def dropOffered (name : String) : SessionM Bool := do
  match ← carryOut (.perform (.take name)) with
  | some channel => do
    release [.receiver channel]
    return true
  | none => return false

/-- The process that a step works on, if it exists. -/
def subject (which : Subject) : SessionM (Option Process) := do
  match which with
  | .built b => return some (← carryOut (b.build (← get).env))
  | .kept name => takeProcess name

/-- The layers that a step applies. -/
def stackOf (choice : LayerChoice) : SessionM Stack := do
  match choice with
  | .given layers =>
    return ⟨(← carryOut (buildLayers (← get).env layers)).map BuiltLayer.toLayer⟩
  | .named name => return ((← get).layerings.lookup name).getD .empty

/-- The process that a step works on, with its layers around it. -/
def interpreted (which : Subject) (layers : LayerChoice) : SessionM (Option Process) := do
  match ← subject which with
  | some p => return some ((← stackOf layers).interpret p)
  | none => return none

/-! ## Waiting -/

/-- Waits until the foreground ends, for as long as a session waits. -/
def waitFor (waiting : Foreground) : SessionM Reply := do
  let limit := (← get).machine.now + Machine.patience
  match ← onMachine fun m => m.wait waiting limit with
  | .inl outcome => return .outcome outcome
  | .inr (.operation r) => do
    release r.held
    return .pending
  | .inr (.task _) => return .pending

/-- Starts an operation and waits for it. -/
def await (p : Pending) : SessionM Reply := do
  match ← onMachine fun m => m.follow .foreground p.start with
  | .ended outcome => return .outcome outcome
  | .resting r => waitFor (.operation r)

/-! ## Running -/

/-- Advances a process: what is shown, and what remains. The command that is shown is dropped. -/
def advanceOnce (p : Process) (v : Value) : SessionM (ShownStep × Process) := do
  match ← onWorld fun w => w.settle (p.advance v) with
  | .suspended command rest => do
    release command.payload.held
    return (.suspended (.of command), rest)
  | .completed value rest => return (.completed value, rest)
  | .failed failure rest => return (.failed failure, rest)

/-- Advances a process with the given values, then with `null`, until it no longer suspends. -/
def drainFrom (p : Process) : (max : Nat) → (vs : List Value) → SessionM (List ShownStep × Process)
  | 0, _ => return ([], p)
  | max + 1, vs => do
    let (shown, rest) ← advanceOnce p (vs.head?.getD .null)
    match shown with
    | .suspended _ => do
      let (more, rest) ← drainFrom rest max vs.tail
      return (shown :: more, rest)
    | _ => return ([shown], rest)

/-- Answers commands from a list and keeps what was asked. -/
def listResponder : Responder (List Outcome × List ShownCommand) := fun (answers, seen) command =>
  (Plan.release command.payload.held).bind fun _ =>
    let seen := seen ++ [.of command]
    match answers with
    | answer :: rest => .done (answer, rest, seen)
    | [] => .done (.error (.handler "driver" "out of answers"), [], seen)

/-- The outcome that a pair of expressions stands for. -/
def outcomeOf : Expr ⊕ FailureExpr → Outcome
  | .inl v => .ok (v.eval [])
  | .inr e => .error (e.eval [])

/-- Runs a process. -/
def runAs (p : Process) : Mode → SessionM Reply
  | .drive => return .outcome (← carryOut p.drive)
  | .bridge => await p.bridge
  | .spawn => do waitFor (.task (← onMachine fun m => m.spawn p.bridge))
  | .answers list => do
    let (outcome, _, seen) ← carryOut (p.driveWith listResponder (list.map outcomeOf, []))
    return .answered outcome seen

/-! ## Steps -/

/-- Carries out one step. -/
def perform : Op → SessionM Reply
  | .stack name layers => do
    let stack ← stackOf (.given layers)
    modify fun s => { s with layerings := (name, stack) :: s.layerings }
    return .extent stack.size stack.isEmpty
  | .kind layer => do
    match (← carryOut (layer.build (← get).env)).kind? with
    | some kind => return .kind kind
    | none => return .nothing
  | .new name b layers => do
    let stack ← stackOf layers
    let p ← carryOut (b.build (← get).env)
    keepProcess name (stack.interpret p)
    return .ok
  | .advance name v => do
    match ← takeProcess name with
    | some p => do
      let (shown, rest) ← advanceOnce p (v.eval [])
      keepProcess name rest
      return .step shown
    | none => return .gone
  | .drain name vs max => do
    match ← takeProcess name with
    | some p => do
      let (shown, rest) ← drainFrom p max (vs.map fun v => v.eval [])
      keepProcess name rest
      return .steps shown
    | none => return .gone
  | .drop name => do
    let process? ← takeProcess name
    if let some p := process? then release p.held
    let bridge? ← takeBridge name
    if let some b := bridge? then release b.held
    let hadResolver ← dropResolver name
    let hadOffer ← dropOffered name
    return .flag (process?.isSome || bridge?.isSome || hadResolver || hadOffer)
  | .run which layers mode => do
    match ← interpreted which layers with
    | some p => runAs p mode
    | none => return .gone
  | .token name => do
    match ← carryOut (.perform (.published name)) with
    | some token => return .token token ((← get).machine.world.isOpen token)
    | none => return .nothing
  | .sameToken a b => do
    match ← carryOut (.perform (.published a)), ← carryOut (.perform (.published b)) with
    | some s, some t => return .flag (s = t)
    | _, _ => return .nothing
  | .compareKinds a b => do
    let env := (← get).env
    let first ← carryOut (a.resolve env)
    let second ← carryOut (b.resolve env)
    return .comparison (first = second) (first = second) first.isEscape second.isEscape
  | .deferred name => do
    let id := (← get).machine.world.channels.size
    onWorld fun w => ((), { w with channels := w.channels.push .open })
    let _ ← dropResolver name
    let _ ← dropOffered name
    onWorld fun w => ((), { w with offered := (name, ⟨id⟩) :: w.offered })
    modify fun s => { s with resolvers := (name, ⟨id⟩) :: s.resolvers }
    return .ok
  | .settle name outcome => do
    match ← send name (outcomeOf outcome) with
    | some heard => return .flag heard
    | none => return .gone
  | .abandon name => do
    let _ ← dropResolver name
    return .ok
  | .await f => do await (← carryOut (f.build (← get).env))
  | .bridge name which layers => do
    match ← interpreted which layers with
    | some p => do
      keepBridge name (.unstarted p.bridge)
      return .ok
    | none => return .gone
  | .poll name => do
    match ← takeBridge name with
    | some b => do
      let progress ← onMachine fun m =>
        match b with
        | .unstarted p => m.follow .foreground p.start
        | .resting r => m.resume .foreground r
      match progress with
      | .ended outcome => return .outcome outcome
      | .resting r => do
        keepBridge name (.resting r)
        return .pending
    | none => return .gone
  | .spawn name which layers => do
    match ← interpreted which layers with
    | some p => do
      let id ← onMachine fun m => m.spawn p.bridge
      modify fun s => { s with handles := (name, id) :: (takeOut s.handles name).2 }
      return .ok
    | none => return .gone
  | .finished name => do
    let s ← get
    match s.handles.lookup name with
    | some id => return .flag (s.machine.taskOutcome? id).isSome
    | none => return .gone
  | .join name => do
    let s ← get
    match takeOut s.handles name with
    | (some id, handles) => do
      set { s with handles := handles }
      waitFor (.task id)
    | (none, _) => return .gone
  | .sleep ms => do
    let limit := (← get).machine.now + ms
    match ← onMachine fun m => m.follow .foreground (.sleep ms [] (.settled (.ok .null))) with
    | .ended _ => return .nothing
    | .resting r => do
      let _ ← onMachine fun m => m.wait (.operation r) limit
      return .nothing
  | .call service method args => do
    await (((← get).env.service service).call ⟨(method.eval []).plain, elements (args.eval [])⟩)
  | .failNext store n => do
    onWorld fun w =>
      match w.stores.lookup store with
      | some data =>
        ((), { w with stores := World.rebind w.stores store { data with failures := n } })
      | none => ((), w)
    return .nothing
  | .size store => do
    match (← get).machine.world.stores.lookup store with
    | some data => return .extent data.size data.isEmpty
    | none => return .nothing

/-- What is shown of a step. -/
structure StepReport where
  /-- The reply. -/
  reply : Reply
  /-- The time after the step, in milliseconds. -/
  time : Nat
  /-- The texts noted. -/
  notes : Array String
  /-- The lines written to sinks in memory. -/
  lines : Array (String × String)
  /-- The trace events reported. -/
  events : Array Event

/-- Carries out a step and collects what is shown of it. -/
def report (op : Op) : SessionM StepReport := do
  onWorld fun w => ((), { w with notes := #[], lines := #[], events := #[] })
  let reply ← perform op
  let machine := (← get).machine
  return ⟨reply, machine.now, machine.world.notes, machine.world.lines, machine.world.events⟩

end Session

end Effects.Script
