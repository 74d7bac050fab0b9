import Effects.Driver
import Effects.Proofs.Observation

/-!
# Plans and drivers in a world

What it means to carry out the plans of the drivers. The driver of a process in which every command
is handled adds nothing of its own: what it returns is read off the end of the first advance. What a
driver that answers commands is asked can be recorded.
-/

namespace Effects

/-- Answers as another responder does, and writes down what is said. -/
def Responder.recording {σ : Type} (respond : Responder σ) :
    Responder (σ × List (Command × Outcome)) := fun state command =>
  (respond state.1 command).bind fun answered =>
    .done (answered.1, answered.2, state.2 ++ [(command, answered.1)])

namespace World

/-- What the driver of a process returns, by the end of the first advance. -/
theorem carryOut_drive (w : World) (r : Run) :
    w.carryOut r.drive =
      match w.settle r with
      | (.completed v rest, w) => (.ok v, w.release rest.held)
      | (.failed failure rest, w) => (.error failure, w.release rest.held)
      | (.suspended command rest, w) =>
        (.error (w.carryOut command.kind.unhandled).1,
          (w.carryOut command.kind.unhandled).2.release (command.payload.held ++ rest.held)) := by
  induction r using Run.induct generalizing w with
  | act a next ih => exact ih _ _
  | suspended kind payload rest => simp [Run.drive]
  | completed v rest => simp [Run.drive]
  | failed failure rest => simp [Run.drive]

end World

end Effects
