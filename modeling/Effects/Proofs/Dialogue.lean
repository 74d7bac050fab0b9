import Effects.Proofs.Alike

/-!
# Dialogues

Whoever advances a process answers its commands, one after the other. `Run.dialogue` is the whole of
it for a list of answers: the commands with their answers, and where it stopped, at the end of the
process or at a command for which no answer was left. It is a recursion on the run, so laws about
what a process says are inductions over runs, and `World.observe_eq_dialogue` says that an observer
sees nothing else up to the end.

Two laws are about parts of a dialogue. It can be held again with just the answers that it used
(`Run.dialogue_used`), and the dialogue of a step of a loop goes on, after the value of the step,
with that of the loop (`Run.dialogue_step`).
-/

namespace Effects

/-- What a process and the one who answers it have said. -/
structure Dialogue where
  /-- The commands that were answered, and their answers. -/
  exchanges : List (Command × Value)
  /-- How the advance after the last of them ended. -/
  last : Step
  /-- The answers that were not used. -/
  left : List Value
  /-- The world afterwards. -/
  world : World

namespace Dialogue

/-- What is seen in a dialogue: each command, and how it ended. -/
def observed (d : Dialogue) : List Observed :=
  d.exchanges.map (fun exchange => .suspended exchange.1) ++ [d.last.observed]

/-- The answers that were used. -/
def used (d : Dialogue) : List Value := d.exchanges.map Prod.snd

/-- A dialogue that comes after some exchanges. -/
def after (earlier : List (Command × Value)) (d : Dialogue) : Dialogue :=
  { d with exchanges := earlier ++ d.exchanges }

theorem observed_after (earlier : List (Command × Value)) (d : Dialogue) :
    (d.after earlier).observed =
      earlier.map (fun exchange => .suspended exchange.1) ++ d.observed := by
  simp [observed, after]

end Dialogue

mutual

/-- The dialogue of a process that is advanced with a value and then answered. -/
def Process.dialogue : Process → Value → World → List Value → Dialogue
  | .spent held, _, w, answers => ⟨[], .failed .alreadyCompleted (.spent held), answers, w⟩
  | .paused _ resume, v, w, answers => (resume v).dialogue w answers

/-- The dialogue of an advance under way, whose commands are answered. -/
def Run.dialogue : Run → World → List Value → Dialogue
  | .act a next, w, answers => (next (w.perform a).1).dialogue (w.perform a).2 answers
  | .suspended kind payload rest, w, [] => ⟨[], .suspended ⟨kind, payload⟩ rest, [], w⟩
  | .suspended kind payload rest, w, v :: answers =>
    (rest.dialogue v w answers).after [(⟨kind, payload⟩, v)]
  | .completed v rest, w, answers => ⟨[], .completed v rest, answers, w⟩
  | .failed failure rest, w, answers => ⟨[], .failed failure rest, answers, w⟩

end

theorem Process.dialogue_eq (p : Process) (v : Value) (w : World) (answers : List Value) :
    p.dialogue v w answers = (p.advance v).dialogue w answers := by
  cases p <;> rfl

namespace Run

theorem dialogue_answered (kind : Kind) (payload : Payload) (rest : Process) (w : World) (v : Value)
    (answers : List Value) : (Run.suspended kind payload rest).dialogue w (v :: answers) =
      ((rest.advance v).dialogue w answers).after [(⟨kind, payload⟩, v)] := by
  rw [Run.dialogue, Process.dialogue_eq]

@[simp]
theorem dialogue_releasing (claims : List Claim) (next : Unit → Run) (w : World)
    (answers : List Value) :
    (Run.releasing claims next).dialogue w answers =
      (next ()).dialogue (w.release claims) answers := by
  cases claims <;> rfl

@[simp]
theorem dialogue_reporting (level : Level) (message : String) (fields : List (String × String))
    (next : Unit → Run) (w : World) (answers : List Value) :
    (Run.reporting level message fields next).dialogue w answers =
      (next ()).dialogue (w.reported [⟨level, message, fields, false⟩]) answers := rfl

end Run

/-! ## What is observed -/

/-- Up to the end, an observer sees a dialogue. -/
theorem World.observe_eq_dialogue (w : World) (p : Process) (v : Value) (answers : List Value) :
    Observed.upToEnd (w.observe p (v :: answers)) =
      ((p.advance v).dialogue w answers).observed := by
  rw [observe_cons]
  generalize p.advance v = r
  induction r using Run.induct generalizing w answers with
  | act a next ih => exact ih (w.perform a).1 (w.perform a).2 answers
  | suspended kind payload rest ih =>
    cases answers with
    | nil => rfl
    | cons answer answers =>
      rw [Run.dialogue_answered]
      exact congrArg (List.cons _) (ih answer w answers)
  | completed | failed => rfl

/-! ## Parts of a dialogue -/

theorem Step.completed_or_not (step : Step) :
    (∃ v rest, step = .completed v rest) ∨ ∀ v rest, step ≠ .completed v rest := by
  cases step with
  | completed v rest => exact .inl ⟨v, rest, rfl⟩
  | suspended | failed => exact .inr fun _ _ => Step.noConfusion

namespace Run

variable {r : Run} {w : World} {answers : List Value}

/-- A dialogue that has come to an end used some of the answers, and left the others. -/
theorem dialogue_used (r : Run) (w : World) (answers more : List Value)
    (hmore : ∀ command rest, (r.dialogue w answers).last = .suspended command rest → more = []) :
    r.dialogue w ((r.dialogue w answers).used ++ more) =
      { r.dialogue w answers with left := more } := by
  induction r using Run.induct generalizing w answers with
  | act a next ih => exact ih (w.perform a).1 (w.perform a).2 answers hmore
  | suspended kind payload rest ih =>
    cases answers with
    | nil =>
      obtain rfl := hmore _ _ rfl
      rfl
    | cons answer answers =>
      rw [dialogue_answered] at hmore ⊢
      have hrest := ih answer w answers hmore
      show (Run.suspended kind payload rest).dialogue w (answer :: _) = _
      rw [dialogue_answered]
      exact congrArg (Dialogue.after _) hrest
  | completed | failed => rfl

variable {owned : List Claim} {next : Value → Run} {v : Value} {rest : Process}

/-- After the answers that a value took, any others may follow. -/
theorem dialogue_used_of_completed (h : (r.dialogue w answers).last = .completed v rest)
    (more : List Value) :
    r.dialogue w ((r.dialogue w answers).used ++ more) =
      { r.dialogue w answers with left := more } := by
  refine dialogue_used r w answers more fun command rest heq => ?_
  rw [h] at heq
  cases heq

theorem last_dialogue_used (h : (r.dialogue w answers).last = .completed v rest)
    (more : List Value) :
    (r.dialogue w ((r.dialogue w answers).used ++ more)).last = .completed v rest := by
  rw [dialogue_used_of_completed h more]
  exact h

/-- What a step of a loop says comes first, and the loop goes on with its value. -/
theorem dialogue_step (h : (r.dialogue w answers).last = .completed v rest) :
    (r.step owned next).dialogue w answers =
      ((next v).dialogue ((r.dialogue w answers).world.release rest.held)
        (r.dialogue w answers).left).after (r.dialogue w answers).exchanges := by
  induction r using Run.induct generalizing w answers with
  | act a next' ih => exact ih (w.perform a).1 h
  | suspended kind payload rest' ih =>
    cases answers with
    | nil => cases h
    | cons answer answers =>
      rw [dialogue_answered] at h ⊢
      show (Run.suspended kind payload (rest'.step owned next)).dialogue w (answer :: answers) = _
      rw [dialogue_answered, Process.advance_step, ih answer h]
      rfl
  | completed v' rest' =>
    cases h
    show (Run.releasing rest.held fun _ => next v).dialogue w answers = _
    rw [dialogue_releasing]
    rfl
  | failed failure rest' => cases h

/-- Where a step has no value, the loop stops as well. -/
theorem observed_dialogue_step (h : ∀ v rest, (r.dialogue w answers).last ≠ .completed v rest) :
    ((r.step owned next).dialogue w answers).observed = (r.dialogue w answers).observed := by
  induction r using Run.induct generalizing w answers with
  | act a next' ih => exact ih (w.perform a).1 h
  | suspended kind payload rest' ih =>
    cases answers with
    | nil => rfl
    | cons answer answers =>
      rw [dialogue_answered] at h ⊢
      show ((Run.suspended kind payload (rest'.step owned next)).dialogue w
        (answer :: answers)).observed = _
      rw [dialogue_answered, Process.advance_step]
      exact congrArg (List.cons _) (ih answer h)
  | completed v' rest' => exact (h v' rest' rfl).elim
  | failed failure rest' => rfl

end Run

end Effects
