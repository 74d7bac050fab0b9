import Effects.World

/-!
# Operations without company

An operation that runs alone in its world: nothing else happens while it pauses, so a pause is just
time that passes, and an outcome that has not been sent by then is never sent.
-/

namespace Effects

/-- What is left when an operation that ran alone has ended. -/
structure Ending where
  /-- The outcome. -/
  outcome : Outcome
  /-- The world afterwards. -/
  world : World
  /-- The milliseconds that have passed. -/
  elapsed : Nat

/-- Follows an operation to its end in a world of its own, after `elapsed` milliseconds. -/
def Operation.aloneFrom (elapsed : Nat) (world : World) : Operation → Ending
  | .settled outcome => ⟨outcome, world, elapsed⟩
  | .act a next =>
    let (answer, world) := world.perform a
    (next answer).aloneFrom elapsed world
  | .sleep ms _ next => next.aloneFrom (elapsed + ms) world
  | .receive channel held next =>
    match world.channelState channel with
    | .sent outcome => (next outcome).aloneFrom elapsed world
    | _ => ⟨.error .abandoned, world.release held, elapsed⟩

/-- Follows an operation to its end in a world of its own. -/
def Operation.alone (op : Operation) (world : World) : Ending := op.aloneFrom 0 world

end Effects
