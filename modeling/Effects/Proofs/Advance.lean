import Effects.Capture

/-!
# Advancing a combined process

Every combinator is a pair of mutual recursions, one on processes at rest and one on advances under
way. The two fit together: to advance the combined process is to combine the advance of the process
inside. With this the laws of a combinator are inductions over runs alone, by `Run.induct`.
-/

namespace Effects

/-- Induction over an advance under way. Behind a command the run that receives the answer is
smaller, whatever the answer is; this includes the failure of a process that is spent. -/
theorem Run.induct {motive : Run → Prop}
    (act : ∀ a next, (∀ answer, motive (next answer)) → motive (.act a next))
    (suspended : ∀ kind payload rest, (∀ v, motive (rest.advance v)) →
      motive (.suspended kind payload rest))
    (completed : ∀ value rest, motive (.completed value rest))
    (failed : ∀ failure rest, motive (.failed failure rest)) : ∀ run, motive run
  | .act a next => act a next fun answer => Run.induct act suspended completed failed (next answer)
  | .suspended kind payload (.spent _) => suspended kind payload _ fun _ => failed _ _
  | .suspended kind payload (.paused _ resume) =>
    suspended kind payload _ fun v => Run.induct act suspended completed failed (resume v)
  | .completed value rest => completed value rest
  | .failed failure rest => failed failure rest

/-! ## Carrying out a plan first -/

/-- The plan can end with a result, for some answers to its acts. -/
def Plan.CanReturn {α : Type} : Plan α → α → Prop
  | .done a, b => a = b
  | .act _ next, b => ∃ answer, (next answer).CanReturn b

theorem Run.ofPlan_bind {α β : Type} (plan : Plan α) (f : α → Plan β) (next : β → Run) :
    Run.ofPlan (plan.bind f) next = .ofPlan plan fun a => .ofPlan (f a) next := by
  induction plan with
  | done a => rfl
  | act a rest ih => exact congrArg (Run.act a) (funext ih)

theorem Run.ofPlan_release {α : Type} (claims : List Claim) (a : α) (next : α → Run) :
    Run.ofPlan ((Plan.release claims).bind fun _ => .done a) next =
      .releasing claims fun _ => next a := by
  cases claims <;> rfl

/-- What comes after a plan matters only for the results that the plan can return. -/
theorem Run.ofPlan_congr {α : Type} {plan : Plan α} {next next' : α → Run}
    (h : ∀ a, plan.CanReturn a → next a = next' a) :
    Run.ofPlan plan next = .ofPlan plan next' := by
  induction plan with
  | done a => exact h a rfl
  | act a rest ih =>
    exact congrArg (Run.act a) (funext fun answer => ih answer fun b hb => h b ⟨answer, hb⟩)

/-! ## Combinators -/

namespace Process

theorem advance_dropAtEnd (p : Process) (v : Value) :
    p.dropAtEnd.advance v = (p.advance v).dropAtEnd := by
  cases p <;> rfl

theorem advance_andThenHolding (owned : List Claim) (next : Value → Plan Process) (p : Process)
    (v : Value) :
    (p.andThenHolding owned next).advance v = (p.advance v).andThenHolding owned next := by
  cases p <;> rfl

theorem advance_mapOnce (f : Option (Value → Plan Value)) (p : Process) (v : Value) :
    (p.mapOnce f).advance v = (p.advance v).mapOnce f := by
  cases p <;> rfl

theorem advance_step (owned : List Claim) (next : Value → Run) (p : Process) (v : Value) :
    (p.step owned next).advance v = (p.advance v).step owned next := by
  cases p <;> rfl

theorem advance_serving (kind : Kind) (inner p : Process) (v : Value) :
    (serving kind inner p).advance v = .serving kind inner (p.advance v) := by
  cases p <;> rfl

theorem advance_handledBy (h : Handler) (p : Process) (v : Value) :
    (p.handledBy h).advance v = (p.advance v).handledBy h := by
  cases p <;> rfl

theorem advance_threadedBy {σ : Type} (l : Threaded σ) (p : Process) (state : σ) (v : Value) :
    (p.threadedBy l state).advance v = (p.advance v).threadedBy l state := by
  cases p <;> rfl

theorem advance_within (token : Token) (p : Process) (v : Value) :
    (p.within token).advance v = (p.advance v).within token := by
  cases p <;> rfl

end Process

mutual

/-- Serving the `call-cc` commands is what the layer of their handler does. -/
theorem Process.handledBy_captureHandler :
    ∀ p : Process, p.handledBy captureHandler = p.capturing
  | .spent _ => rfl
  | .paused held resume =>
    congrArg (Process.paused held) (funext fun v => Run.handledBy_captureHandler (resume v))

theorem Run.handledBy_captureHandler : ∀ r : Run, r.handledBy captureHandler = r.capturing
  | .act a next =>
    congrArg (Run.act a) (funext fun answer => Run.handledBy_captureHandler (next answer))
  | .suspended kind payload rest => by
    have hrest := Process.handledBy_captureHandler rest
    have hkind : captureHandler.kind = .callCC := rfl
    cases payload <;>
      · simp only [Run.handledBy, Run.capturing, hkind, hrest]
        rfl
  | .completed value rest => rfl
  | .failed failure rest => congrArg (Run.failed failure) (Process.handledBy_captureHandler rest)

end

end Effects
