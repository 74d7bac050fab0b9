import Effects.Command

/-!
# Acts

What code can do to its surroundings while it runs between two commands. Acts are data: a run that
is under way is a tree of acts, and the meaning of an act is given once, by the world that performs
it. Commands, in contrast, are requests to whoever advances the process.
-/

namespace Effects

/-- How a run ends: with a value or with a failure. -/
abbrev Outcome := Except Failure Value

/-- The importance of a trace event. -/
inductive Level where
  | trace
  | debug
  | info
  | warn
deriving DecidableEq, Repr

/-- The text of a level. -/
def Level.shown : Level → String
  | trace => "TRACE"
  | debug => "DEBUG"
  | info => "INFO"
  | warn => "WARN"

/-- A trace event. -/
structure Event where
  /-- How important the event is. -/
  level : Level
  /-- What happened. -/
  message : String
  /-- Named details, in the order in which they are shown. -/
  fields : List (String × String)
  /-- The event is a log entry, not a report of the machinery. -/
  isLog : Bool
deriving DecidableEq, Repr

/-- The line of an event: level and message, and each detail after a bar. -/
def Event.line (e : Event) : String :=
  e.level.shown ++ " " ++ e.message
    ++ String.join (e.fields.map fun field => "|" ++ field.1 ++ "=" ++ field.2)

/-- A call of the record store. -/
structure StoreRequest where
  /-- The name of the operation. -/
  method : String
  /-- Its arguments. -/
  args : List Value

/-- Something done to the surroundings between two commands. -/
inductive Act where
  /-- Mints the token of a new capture scope. -/
  | mint
  /-- Gives up claims. -/
  | release (claims : List Claim)
  /-- Asks whether the scope that minted a token is still running. -/
  | isOpen (token : Token)
  /-- Reports a trace event. -/
  | report (event : Event)
  /-- Appends a line to a sink in memory. -/
  | write (sink line : String)
  /-- Notes a text. -/
  | note (text : String)
  /-- Publishes a token under a name; a later publication under the name hides it. -/
  | publish (name : String) (token : Token)
  /-- Looks up the token published under a name. -/
  | published (name : String)
  /-- Takes the receiving half of the deferred operation with the given name. -/
  | take (name : String)
  /-- Executes one request against a store, unless a failure is due. -/
  | attempt (store : String) (request : StoreRequest)

/-- The type of what an act answers. -/
def Act.Answer : Act → Type
  | mint => Token
  | release _ => Unit
  | isOpen _ => Bool
  | report _ => Unit
  | write _ _ => Unit
  | note _ => Unit
  | publish _ _ => Unit
  | published _ => Option Token
  | take _ => Option Channel
  | attempt _ _ => Outcome

/-- Code that performs acts and then ends with a result. -/
inductive Plan (α : Type) where
  /-- Nothing is left to do. -/
  | done (a : α)
  /-- Performs an act and goes on with its answer. -/
  | act (a : Act) (next : a.Answer → Plan α)

namespace Plan

variable {α β : Type}

/-- Sequencing: the second plan starts from the result of the first. -/
def bind : Plan α → (α → Plan β) → Plan β
  | done a, f => f a
  | act a next, f => .act a fun answer => (next answer).bind f

instance : Monad Plan where
  pure := done
  bind := bind

/-- Performs one act. -/
def perform (a : Act) : Plan a.Answer := .act a done

end Plan

/-- Gives up claims, if there are any. -/
def Plan.release (claims : List Claim) : Plan Unit :=
  match claims with
  | [] => .done ()
  | claims => .act (.release claims) .done

/-- Reports an event of the machinery. -/
def Plan.report (level : Level) (message : String) (fields : List (String × String)) : Plan Unit :=
  .act (.report ⟨level, message, fields, false⟩) .done

end Effects
