import Effects.Proofs.Context

/-!
# What remains of a run that has ended

A process can be advanced again after it has completed or failed. It is `Over` when nothing can come
of that any more: each advance gives up claims, at most, and fails as an advance after the end.

Many frames keep the process inside after a failure, and some after it has completed. They cannot
revive it: around a process that is over, these frames are over as well.
-/

namespace Effects

mutual

/-- Every later advance fails as an advance after the end. -/
def Process.Over : Process → Prop
  | .spent _ => True
  | .paused _ resume => ∀ v, (resume v).Over

/-- The advance fails as an advance after the end, and so does every later one. On the way it gives
up claims, at most. -/
def Run.Over : Run → Prop
  | .act a next => (∃ claims, a = .release claims) ∧ ∀ answer, (next answer).Over
  | .suspended _ _ _ => False
  | .completed _ _ => False
  | .failed failure rest => failure = .alreadyCompleted ∧ rest.Over

end

theorem Process.Over.advance {p : Process} (hp : p.Over) (v : Value) : (p.advance v).Over := by
  cases p with
  | spent held => exact ⟨rfl, trivial⟩
  | paused held resume => exact hp v

theorem Process.over_spent (held : List Claim) : (Process.spent held).Over := trivial

/-- A run that is over fails, and what it changes in the world is that claims are given up. -/
theorem Run.Over.settle {r : Run} (hr : r.Over) (w : World) :
    ∃ rest claims, w.settle r = (.failed .alreadyCompleted rest, w.release claims) ∧ rest.Over := by
  induction r using Run.induct generalizing w with
  | act a next ih =>
    obtain ⟨⟨claims, rfl⟩, hnext⟩ := hr
    obtain ⟨rest, more, hsettle, hrest⟩ := ih () (hnext ()) (w.release claims)
    exact ⟨rest, claims ++ more, by rw [World.release_append]; exact hsettle, hrest⟩
  | suspended => exact hr.elim
  | completed => exact hr.elim
  | failed failure rest =>
    obtain ⟨rfl, hrest⟩ := hr
    exact ⟨rest, [], rfl, hrest⟩

/-- Whoever goes on advancing a process that is over sees one failure after the other. -/
theorem Process.Over.steps {p : Process} (hp : p.Over) (w : World) (inputs : List Value) :
    (∀ observed ∈ w.observe p inputs, observed = .failed .alreadyCompleted) ∧
      ∃ claims, (w.steps p inputs).2 = w.release claims := by
  induction inputs generalizing w p with
  | nil => exact ⟨by simp, [], rfl⟩
  | cons v inputs ih =>
    obtain ⟨rest, claims, hsettle, hrest⟩ := (hp.advance v).settle w
    obtain ⟨hlater, more, hworld⟩ := ih hrest (w.release claims)
    refine ⟨?_, claims ++ more, ?_⟩
    · rw [World.observe_cons, hsettle]
      intro observed hobserved
      rcases List.mem_cons.mp hobserved with rfl | hin
      · rfl
      · exact hlater observed hin
    · rw [World.steps_cons, hsettle, World.release_append]
      exact hworld

/-! ## Frames that stay in place -/

namespace Frame

/-- The frame keeps the process inside after a failure. -/
def Keeps : Frame → Prop
  | mapped _ | looping _ _ | handled _ | serving _ _ | threaded _ _ => True
  | first _ _ | second | scope _ => False

theorem Keeps.run_failed {frame : Frame} (hkeeps : frame.Keeps) (failure : Failure)
    (rest : Process) : frame.run (.failed failure rest) = .failed failure (frame.process rest) := by
  cases frame <;> first | rfl | exact hkeeps.elim

theorem Keeps.process_spent {frame : Frame} (hkeeps : frame.Keeps) (held : List Claim) :
    ∃ claims, frame.process (.spent held) = .spent claims := by
  cases frame <;> first | exact ⟨_, rfl⟩ | exact hkeeps.elim

theorem process_paused (frame : Frame) (held : List Claim) (resume : Value → Run) :
    ∃ claims, frame.process (.paused held resume) =
      .paused claims fun v => frame.run (resume v) := by
  cases frame <;> exact ⟨_, rfl⟩

/-- The other frames drop the process inside and end with its failure. -/
theorem run_failed_of_not_keeps {frame : Frame} (h : ¬ frame.Keeps) (failure : Failure)
    (rest : Process) :
    ∃ claims, frame.run (.failed failure rest) = .releasing claims fun _ => .aborted failure := by
  cases frame with
  | first owned next => exact ⟨rest.held ++ owned, rfl⟩
  | second => exact ⟨rest.held, rfl⟩
  | scope token => exact ⟨.scope token :: rest.held, rfl⟩
  | _ => exact (h trivial).elim

theorem process_spent_of_not_keeps {frame : Frame} (h : ¬ frame.Keeps) (held : List Claim) :
    ∃ claims, frame.process (.spent held) =
      .paused claims fun _ => .releasing claims fun _ => .aborted .alreadyCompleted := by
  cases frame with
  | first owned next => exact ⟨held ++ owned, rfl⟩
  | second => exact ⟨held, rfl⟩
  | scope token => exact ⟨.scope token :: held, rfl⟩
  | _ => exact (h trivial).elim

end Frame

mutual

/-- A frame does not revive a process that is over. -/
theorem Process.Over.frame {frame : Frame} (hkeeps : frame.Keeps) :
    ∀ {p : Process}, p.Over → (frame.process p).Over
  | .spent held, _ => by
    obtain ⟨claims, hspent⟩ := hkeeps.process_spent held
    exact hspent ▸ Process.over_spent claims
  | .paused held resume, hp => by
    obtain ⟨claims, hpaused⟩ := frame.process_paused held resume
    rw [hpaused]
    exact fun v => Run.Over.frame hkeeps (r := resume v) (hp v)

theorem Run.Over.frame {frame : Frame} (hkeeps : frame.Keeps) :
    ∀ {r : Run}, r.Over → (frame.run r).Over
  | .act a next, hr => by
    rw [Frame.run_act]
    exact ⟨hr.1, fun answer => Run.Over.frame hkeeps (r := next answer) (hr.2 answer)⟩
  | .failed failure rest, hr => by
    rw [hkeeps.run_failed]
    exact ⟨hr.1, Process.Over.frame hkeeps (p := rest) hr.2⟩

end

/-! ## What a failure leaves of a context -/

/-- What a failure inside makes of a frame: the claims that are given up, and what remains. -/
def Frame.abandon : Frame → Process → List Claim × Process
  | first owned _, rest => (rest.held ++ owned, .spent [])
  | second, rest => (rest.held, .spent [])
  | scope token, rest => (.scope token :: rest.held, .spent [])
  | frame, rest => ([], frame.process rest)

/-- What a failure inside makes of a context, from the inside out. -/
def Context.abandon : Context → Process → List Claim × Process
  | [], rest => ([], rest)
  | frame :: context, rest =>
    let (claims, inside) := abandon context rest
    let (more, outside) := frame.abandon inside
    (claims ++ more, outside)

theorem Frame.run_failed (frame : Frame) (failure : Failure) (rest : Process) :
    frame.run (.failed failure rest) =
      .releasing (frame.abandon rest).1 fun _ => .failed failure (frame.abandon rest).2 := by
  cases frame <;> rfl

/-- All that a context does after a failure inside is to give up claims. -/
theorem Context.settle_failed (context : Context) (w : World) (failure : Failure) (rest : Process) :
    w.settle (run context (.failed failure rest)) =
      (.failed failure (abandon context rest).2, w.release (abandon context rest).1) := by
  induction context with
  | nil => rfl
  | cons frame context ih =>
    show w.settle (frame.run (run context (.failed failure rest))) = _
    rw [frame.settle_run, ih, Step.run, Frame.run_failed, World.settle_releasing,
      World.settle_failed, ← World.release_append]
    rfl

end Effects
