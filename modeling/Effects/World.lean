import Effects.Store

/-!
# The world

The surroundings of running processes: which scopes are running, what has been noted, written and
reported, which tokens are published, how far the deferred operations have come, and the data of the
stores. `World.perform` gives every act its meaning, and so does `World.settle` for a run: it
performs the acts of an advance until the advance ends.
-/

namespace Effects

/-- How far a deferred operation has come. -/
inductive ChannelState where
  /-- Neither settled nor given up. -/
  | open
  /-- The outcome has been sent. -/
  | sent (outcome : Outcome)
  /-- The receiving half has been dropped. -/
  | closed

/-- The surroundings of running processes. -/
structure World where
  /-- The serial of the next token. -/
  nextSerial : Nat := 1
  /-- The tokens whose scopes are running. -/
  openScopes : List Token := []
  /-- The texts noted, oldest first. -/
  notes : Array String := #[]
  /-- The lines written to sinks in memory, oldest first. -/
  lines : Array (String × String) := #[]
  /-- The trace events reported, oldest first. -/
  events : Array Event := #[]
  /-- The tokens published, the last publication first. -/
  published : List (String × Token) := []
  /-- The receiving halves of deferred operations that nobody has taken yet. -/
  offered : List (String × Channel) := []
  /-- How far each deferred operation has come; channels are numbered by position. -/
  channels : Array ChannelState := #[]
  /-- The data of the stores. -/
  stores : List (String × Store) := []

namespace World

/-- Replaces the value bound to a name that is already bound. -/
def rebind {α : Type} (bindings : List (String × α)) (name : String) (value : α) :
    List (String × α) :=
  bindings.map fun binding => if binding.1 = name then (name, value) else binding

/-- Whether the scope of a token is running. -/
def isOpen (w : World) (token : Token) : Bool := w.openScopes.contains token

/-- The state of a channel. -/
def channelState (w : World) (channel : Channel) : ChannelState :=
  w.channels[channel.id]?.getD .closed

/-- Gives up one claim. -/
def releaseOne (w : World) : Claim → World
  | .scope token => { w with openScopes := w.openScopes.erase token }
  | .receiver channel =>
    match w.channelState channel with
    | .open => { w with channels := w.channels.setIfInBounds channel.id .closed }
    | _ => w

/-- Gives up claims. -/
def release (w : World) (claims : List Claim) : World := claims.foldl releaseOne w

/-- Performs an act: its answer, and the world after it. -/
def perform (w : World) : (a : Act) → a.Answer × World
  | .mint =>
    let token : Token := ⟨w.nextSerial⟩
    (token, { w with nextSerial := w.nextSerial + 1, openScopes := token :: w.openScopes })
  | .release claims => ((), w.release claims)
  | .isOpen token => (w.isOpen token, w)
  | .report event => ((), { w with events := w.events.push event })
  | .write sink line => ((), { w with lines := w.lines.push (sink, line) })
  | .note text => ((), { w with notes := w.notes.push text })
  | .publish name token => ((), { w with published := (name, token) :: w.published })
  | .published name => (w.published.lookup name, w)
  | .take name =>
    (w.offered.lookup name,
      { w with offered := w.offered.filter fun offer => offer.1 ≠ name })
  | .attempt store request =>
    match w.stores.lookup store with
    | some data =>
      let (outcome, data) := data.attempt request
      (outcome, { w with stores := rebind w.stores store data })
    | none => (.error (.handler "db" ("no store " ++ store)), w)

/-- Carries out a plan. -/
def carryOut {α : Type} (w : World) : Plan α → α × World
  | .done a => (a, w)
  | .act a next =>
    let (answer, w) := w.perform a
    w.carryOut (next answer)

end World

/-- How an advance ends, with what remains of the process. -/
inductive Step where
  /-- Paused at a command. -/
  | suspended (command : Command) (rest : Process)
  /-- Ended with a value. -/
  | completed (value : Value) (rest : Process)
  /-- Ended with a failure. -/
  | failed (failure : Failure) (rest : Process)

namespace Step

/-- What remains of the process. -/
def rest : Step → Process
  | suspended _ rest => rest
  | completed _ rest => rest
  | failed _ rest => rest

end Step

/-- Performs the acts of an advance until the advance ends. -/
def World.settle (w : World) : Run → Step × World
  | .act a next =>
    let (answer, w) := w.perform a
    w.settle (next answer)
  | .suspended kind payload rest => (.suspended ⟨kind, payload⟩ rest, w)
  | .completed value rest => (.completed value rest, w)
  | .failed failure rest => (.failed failure rest, w)

end Effects
