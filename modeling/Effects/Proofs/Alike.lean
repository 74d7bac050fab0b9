import Effects.Proofs.Matching

/-!
# Processes that are alike

Two processes are alike if whoever advances them sees the same, up to the first end. Along the way
they act in the same way on the world, apart from reports. At the end they may differ in what they
give up, since one of them may keep parts of itself that the other has dropped; and nothing is said
about what remains after the end.

`Run.Alike` says this of advances under way, by rules that follow the two trees, so it can be shown
without a word about worlds. `World.observe_alike` is what it means for an observer.
-/

namespace Effects

/-- The run ends at once with what is observed, a value or a failure; on the way it gives up claims,
at most. -/
inductive Run.EndsAs : Observed → Run → Prop where
  | completed (v : Value) (rest : Process) : EndsAs (.completed v) (.completed v rest)
  | failed (failure : Failure) (rest : Process) : EndsAs (.failed failure) (.failed failure rest)
  | released (claims : List Claim) {next : Unit → Run} {observed : Observed}
    (h : EndsAs observed (next ())) : EndsAs observed (.act (.release claims) next)

/-- The two runs show the same up to the first end, and until then they act in the same way, apart
from reports. -/
inductive Run.Alike : Run → Run → Prop where
  | act (a : Act) {next next' : a.Answer → Run}
    (h : ∀ answer, Alike (next answer) (next' answer)) : Alike (.act a next) (.act a next')
  /-- The first run reports an event of the machinery. -/
  | reportedLeft {event : Event} (hevent : event.isLog = false) {next : Unit → Run} {r : Run}
    (h : Alike (next ()) r) : Alike (.act (.report event) next) r
  /-- The second run reports an event of the machinery. -/
  | reportedRight {event : Event} (hevent : event.isLog = false) {next : Unit → Run} {r : Run}
    (h : Alike r (next ())) : Alike r (.act (.report event) next)
  | suspended (kind : Kind) (payload : Payload) {rest rest' : Process}
    (h : ∀ v, Alike (rest.advance v) (rest'.advance v)) :
    Alike (.suspended kind payload rest) (.suspended kind payload rest')
  | ended {observed : Observed} {r r' : Run} (h : r.EndsAs observed) (h' : r'.EndsAs observed) :
    Alike r r'

/-- The two processes are alike when they are advanced, whatever the input is. -/
def Process.Alike (p p' : Process) : Prop := ∀ v, Run.Alike (p.advance v) (p'.advance v)

namespace Run

theorem EndsAs.releasing {claims : List Claim} {next : Unit → Run} {observed : Observed}
    (h : (next ()).EndsAs observed) : (Run.releasing claims next).EndsAs observed := by
  cases claims with
  | nil => exact h
  | cons claim claims => exact .released _ h

namespace Alike

theorem refl (r : Run) : Alike r r := by
  induction r using Run.induct with
  | act a next ih => exact .act a ih
  | suspended kind payload rest ih => exact .suspended kind payload ih
  | completed v rest => exact .ended (.completed v rest) (.completed v rest)
  | failed failure rest => exact .ended (.failed failure rest) (.failed failure rest)

theorem releasing (claims : List Claim) {next next' : Unit → Run} (h : Alike (next ()) (next' ())) :
    Alike (.releasing claims next) (.releasing claims next') := by
  cases claims with
  | nil => exact h
  | cons claim claims => exact .act _ fun _ => h

theorem ofPlan {α : Type} (plan : Plan α) {next next' : α → Run}
    (h : ∀ a, Alike (next a) (next' a)) : Alike (.ofPlan plan next) (.ofPlan plan next') := by
  induction plan with
  | done a => exact h a
  | act a rest ih => exact .act a ih

theorem reporting (level : Level) (message : String) (fields : List (String × String))
    {next next' : Unit → Run} (h : Alike (next ()) (next' ())) :
    Alike (.reporting level message fields next) (.reporting level message fields next') :=
  .act _ fun _ => h

end Alike

end Run

/-! ## What is observed -/

/-- Two advances end in the same way. After a command the processes are still alike, and the worlds
are the same, reports aside. -/
inductive Step.Alike : Step × World → Step × World → Prop where
  | suspended (command : Command) {rest rest' : Process} (hrest : rest.Alike rest') {w w' : World}
    (hw : w.quiet = w'.quiet) : Alike (.suspended command rest, w) (.suspended command rest', w')
  | completed (v : Value) (rest rest' : Process) (w w' : World) :
    Alike (.completed v rest, w) (.completed v rest', w')
  | failed (failure : Failure) (rest rest' : Process) (w w' : World) :
    Alike (.failed failure rest, w) (.failed failure rest', w')

theorem World.quiet_report (w : World) {event : Event} (h : event.isLog = false) :
    (w.perform (.report event)).2.quiet = w.quiet :=
  have hevents : ∀ e ∈ [event], e.isLog = false := by simpa using h
  quiet_reported w hevents

theorem World.settle_endsAs {r : Run} {observed : Observed} (h : r.EndsAs observed) (w : World) :
    (∃ v rest w', observed = .completed v ∧ w.settle r = (.completed v rest, w')) ∨
      ∃ failure rest w', observed = .failed failure ∧ w.settle r = (.failed failure rest, w') := by
  induction h generalizing w with
  | completed v rest => exact .inl ⟨v, rest, w, rfl, rfl⟩
  | failed failure rest => exact .inr ⟨failure, rest, w, rfl, rfl⟩
  | released claims _ ih => exact ih (w.release claims)

theorem World.settle_alike {r r' : Run} (h : r.Alike r') {w w' : World}
    (hw : w.quiet = w'.quiet) : Step.Alike (w.settle r) (w'.settle r') := by
  induction h generalizing w w' with
  | act a _ ih =>
    obtain ⟨hanswer, hworld⟩ := quiet_perform hw a
    rw [settle_act, settle_act, hanswer]
    exact ih _ hworld
  | @reportedLeft event hevent next r _ ih =>
    have hquiet : (w.perform (.report event)).2.quiet = w.quiet := quiet_report w hevent
    exact ih (hquiet.trans hw)
  | @reportedRight event hevent next r _ ih =>
    have hquiet : (w'.perform (.report event)).2.quiet = w'.quiet := quiet_report w' hevent
    exact ih (hw.trans hquiet.symm)
  | suspended kind payload h _ => exact .suspended ⟨kind, payload⟩ h hw
  | ended h h' =>
    rcases settle_endsAs h w with ⟨v, rest, w₁, rfl, hr⟩ | ⟨failure, rest, w₁, rfl, hr⟩
    · rcases settle_endsAs h' w' with ⟨v', rest', w₁', heq, hr'⟩ | ⟨_, _, _, heq, _⟩
      · cases heq
        rw [hr, hr']
        exact .completed v rest rest' w₁ w₁'
      · cases heq
    · rcases settle_endsAs h' w' with ⟨_, _, _, heq, _⟩ | ⟨failure', rest', w₁', heq, hr'⟩
      · cases heq
      · cases heq
        rw [hr, hr']
        exact .failed failure rest rest' w₁ w₁'

/-- Processes that are alike cannot be told apart up to the first end, whatever they are advanced
with and in whatever world. -/
theorem World.observe_alike {p p' : Process} (h : p.Alike p') {w w' : World}
    (hw : w.quiet = w'.quiet) (inputs : List Value) :
    Observed.upToEnd (w.observe p inputs) = Observed.upToEnd (w'.observe p' inputs) := by
  induction inputs generalizing p p' w w' with
  | nil => rfl
  | cons v inputs ih =>
    have hstep := settle_alike (h v) hw
    rw [observe_cons, observe_cons]
    generalize w.settle (p.advance v) = ending, w'.settle (p'.advance v) = ending' at hstep
    cases hstep with
    | suspended command hrest hw => exact congrArg (List.cons _) (ih hrest hw)
    | completed | failed => rfl

end Effects
