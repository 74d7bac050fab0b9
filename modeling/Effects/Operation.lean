import Effects.Act

/-!
# Pending operations

An asynchronous operation: acts, pauses and waits for deferred outcomes, ending with an outcome of
its own. It is a tree, so following one path through it always ends. At each point where it can
rest, a node lists the claims that the operation holds there: dropping it gives them up.
-/

namespace Effects

/-- The rest of an asynchronous operation. -/
inductive Operation where
  /-- The operation has ended. -/
  | settled (outcome : Outcome)
  /-- Performs an act and goes on with its answer. -/
  | act (a : Act) (next : a.Answer → Operation)
  /-- Pauses for some milliseconds. -/
  | sleep (ms : Nat) (held : List Claim) (next : Operation)
  /-- Waits for the outcome of a deferred operation. -/
  | receive (channel : Channel) (held : List Claim) (next : Outcome → Operation)

namespace Operation

/-- Gives up claims, if there are any, and goes on. -/
def releasing (claims : List Claim) (next : Unit → Operation) : Operation :=
  match claims with
  | [] => next ()
  | claims => .act (.release claims) next

/-- Reports an event of the machinery and goes on. -/
def reporting (level : Level) (message : String) (fields : List (String × String))
    (next : Unit → Operation) : Operation :=
  .act (.report ⟨level, message, fields, false⟩) next

/-- Carries out a plan and goes on with its result. -/
def ofPlan {α : Type} (plan : Plan α) (next : α → Operation) : Operation :=
  match plan with
  | .done a => next a
  | .act a rest => .act a fun answer => ofPlan (rest answer) next

/-- Goes on with the outcome of an operation. What comes after holds `held` while it waits. -/
def andThen (held : List Claim) (next : Outcome → Operation) : Operation → Operation
  | .settled outcome => next outcome
  | .act a rest => .act a fun answer => andThen held next (rest answer)
  | .sleep ms own rest => .sleep ms (own ++ held) (andThen held next rest)
  | .receive channel own rest =>
    .receive channel (own ++ held) fun outcome => andThen held next (rest outcome)

end Operation

/-- An operation that has not started yet. -/
structure Pending where
  /-- What is given up if the operation is dropped unstarted. -/
  held : List Claim
  /-- The operation. -/
  start : Operation

/-- An operation that has already settled. -/
def Pending.settled (outcome : Outcome) : Pending := ⟨[], .settled outcome⟩

/-- The operation that ends with the outcome sent over a channel. -/
def Pending.deferred (channel : Channel) : Pending :=
  ⟨[.receiver channel], .receive channel [.receiver channel] .settled⟩

end Effects
