import Effects.Proofs.Context

/-!
# Leaving a capture scope

The escape of a scope is a command like any other, and it has to come out of everything that lies
between the code that yields it and the scope: parts of sequences and loops, layers, handlers at
work, scopes further in. None of these answers it, so it arrives in the same advance. The scope then
completes with the value of the escape, and all that lay inside is dropped without running again.
-/

namespace Effects

/-- Giving up claims closes no scope but theirs. -/
theorem World.isOpen_release {token : Token} {claims : List Claim} (h : .scope token ∉ claims)
    (w : World) : (w.release claims).isOpen token = w.isOpen token := by
  refine release_preserves (isOpen · token) (fun claim hclaim w => ?_) w
  cases claim with
  | scope other =>
    have hne : token ≠ other := fun heq => h (heq ▸ hclaim)
    simp [releaseOne, isOpen, List.mem_erase_of_ne hne]
  | receiver channel =>
    simp only [releaseOne]
    split <;> rfl

/-- At its own escape a scope ends, with the value of the escape if the payload is one, and what is
left of the body is dropped. -/
theorem Run.within_escape (token : Token) (payload : Payload) (rest : Process) :
    (Run.suspended (.escape token) payload rest).within token =
      .reporting .debug "escaping capture scope" [("token", token.shown)] fun _ =>
        .releasing (.scope token :: (payload.held ++ rest.held)) fun _ =>
          match payload.toValue (.escape token) with
          | .ok value => .ended value
          | .error failure => .aborted failure := by
  rw [Run.within]
  exact if_pos rfl

/-- How the advance of a scope can end. -/
inductive Step.OfScope (token : Token) : Step → Prop where
  /-- The scope has completed. -/
  | completed (value : Value) : OfScope token (.completed value (.spent []))
  /-- The scope has failed. -/
  | failed (failure : Failure) : OfScope token (.failed failure (.spent []))
  /-- The body has yielded a command that is not the escape of this scope, and is still in it. -/
  | suspended (command : Command) (body : Process) (h : command.kind ≠ .escape token) :
    OfScope token (.suspended command (body.within token))

/-- A command that is not the escape of a scope leaves it, and its answer goes back to the body. -/
theorem settle_within_of_ne {token : Token} {command : Command} (hne : command.kind ≠ .escape token)
    {w w₁ : World} {r : Run} {rest : Process} (hr : w.settle r = (.suspended command rest, w₁)) :
    w.settle (r.within token) =
      (.suspended command (rest.within token),
        w₁.reported (Frame.reports command.kind (.scope token))) := by
  rw [show r.within token = Context.run [.scope token] r from rfl, Context.settle_run, hr]
  show w₁.settle (Frame.run (.scope token) (.suspended command.kind command.payload rest)) = _
  have hadmits : (Frame.scope token).Admits command.kind := hne
  rw [Frame.run_suspended hadmits, World.settle_reportingAll]
  rfl

theorem settle_within (token : Token) (w : World) (r : Run) :
    (w.settle (r.within token)).1.OfScope token := by
  have hscope : w.settle (r.within token) =
      (w.settle r).2.settle ((w.settle r).1.run.within token) :=
    Context.settle_run [.scope token] w r
  generalize hr : w.settle r = ended at hscope
  obtain ⟨step, w₁⟩ := ended
  cases step with
  | completed value rest =>
    simp only [hscope, Step.run, Run.within, World.settle_releasing]
    exact .completed value
  | failed failure rest =>
    simp only [hscope, Step.run, Run.within, World.settle_releasing]
    exact .failed failure
  | suspended command rest =>
    by_cases hown : command.kind = .escape token
    · obtain ⟨_, payload⟩ := command
      obtain rfl := hown
      simp only [hscope, Step.run, Run.within_escape, World.settle_reporting,
        World.settle_releasing]
      cases payload.toValue (.escape token) with
      | ok value => exact .completed value
      | error failure => exact .failed failure
    · rw [settle_within_of_ne hown hr]
      exact .suspended command rest hown

/-- Every advance of a scope ends as the advance of a scope can, from the first to the last. -/
theorem steps_of_scope (token : Token) (held : List Claim) (enter : Token → Run)
    (inputs : List Value) (w : World) :
    ∀ step ∈ (w.steps (.scope token held enter) inputs).1, step.OfScope token := by
  have hstart : ∀ v (w : World),
      (w.settle ((Process.scope token held enter).advance v)).1.OfScope token :=
    fun _ w => settle_within token w (enter token)
  refine World.steps_invariant (fun p => ∀ v (w : World), (w.settle (p.advance v)).1.OfScope token)
    (fun _ hp w v => hp v w) (fun step hstep v w => ?_) inputs hstart w
  cases hstep with
  | completed | failed => exact .failed .alreadyCompleted
  | suspended command body =>
    show (w.settle ((body.within token).advance v)).1.OfScope token
    rw [Process.advance_within]
    exact settle_within token w _

/-- A scope that receives its own escape, through frames that do not answer it, completes with the
value of the escape. All that it does is to report, and to drop what lay inside. -/
theorem Context.settle_escape {inner : Context} {token : Token}
    (hinner : ∀ frame ∈ inner, frame.Admits (.escape token)) {w w₁ : World} {r : Run} {v : Value}
    {rest : Process} (hescape : w.settle r = (.suspended ⟨.escape token, .value v⟩ rest, w₁)) :
    w.settle (Context.run (.scope token :: inner) r) =
      (.completed v (.spent []),
        (w₁.reported (Context.reports (.escape token) inner ++
          [⟨.debug, "escaping capture scope", [("token", token.shown)], false⟩])).release
            (.scope token :: (Context.process inner rest).held)) := by
  rw [Context.settle_run, hescape]
  show w₁.settle (Frame.run (.scope token)
    (Context.run inner (.suspended (.escape token) (.value v) rest))) = _
  rw [Context.run_suspended hinner, Frame.run_reportingAll, World.settle_reportingAll]
  show (w₁.reported _).settle (Run.within token (.suspended (.escape token) (.value v) _)) = _
  rw [Run.within_escape, World.settle_reporting, World.settle_releasing, World.reported_append]
  rfl

/-- Leaving a scope is exact. When the code inside yields the escape of a scope with a value, and
nothing between the two answers it, the scope completes with that very value in the same advance.
From there on nothing inside acts any more: the claims of what lay inside are given up, events are
reported, and what lies outside goes on with the value. Scopes whose claims lay elsewhere stay open.

Whatever its body is, a scope never yields its own escape. Each other command leaves it as it was
yielded, and the answer is delivered to the body, still inside its scope. -/
theorem exit_exact (outer : Context) {inner : Context} {token : Token}
    (hinner : ∀ frame ∈ inner, frame.Admits (.escape token)) {w w₁ : World} {r : Run} {v : Value}
    {rest : Process} (hescape : w.settle r = (.suspended ⟨.escape token, .value v⟩ rest, w₁)) :
    (∃ events w₂, (∀ event ∈ events, event.isLog = false) ∧
      w₂ = (w₁.reported events).release (.scope token :: (Context.process inner rest).held) ∧
      w.settle (Context.run (.scope token :: inner) r) = (.completed v (.spent []), w₂) ∧
      w.settle (Context.run (outer ++ .scope token :: inner) r) =
        w₂.settle (Context.run outer (.ended v)) ∧
      ∀ other, .scope other ∉ .scope token :: (Context.process inner rest).held →
        w₂.isOpen other = w₁.isOpen other) ∧
    (∀ held enter inputs w, ∀ step ∈ (World.steps w (.scope token held enter) inputs).1,
      ∀ payload rest, step ≠ .suspended ⟨.escape token, payload⟩ rest) ∧
    ∀ command r rest w w', command.kind ≠ .escape token →
      World.settle w r = (.suspended command rest, w') →
      ∃ events, (∀ event ∈ events, event.isLog = false) ∧
        w.settle (r.within token) = (.suspended command (rest.within token), w'.reported events) ∧
        ∀ answer, (rest.within token).advance answer = (rest.advance answer).within token := by
  refine ⟨?_, ?_, ?_⟩
  · have hscope := Context.settle_escape hinner hescape
    refine ⟨_, _, ?_, rfl, hscope, ?_, fun other hother => World.isOpen_release hother _⟩
    · intro event hevent
      rcases List.mem_append.mp hevent with hpassed | hown
      · exact Context.isLog_reports hpassed
      · rw [List.mem_singleton.mp hown]
    · rw [Context.run_append, Context.settle_run, hscope]
      rfl
  · intro held enter inputs w step hstep payload rest heq
    have hscope := steps_of_scope token held enter inputs w step hstep
    rw [heq] at hscope
    cases hscope with
    | suspended _ _ hne => exact hne rfl
  · intro command r rest w w' hne hr
    exact ⟨_, fun event hevent => Frame.isLog_reports hevent, settle_within_of_ne hne hr,
      Process.advance_within token rest⟩

/-- The escape of the second of three scopes, yielded in the innermost by a handler at work. It
comes out of a loop and two layers, and the outermost scope stays open. -/
theorem exit_through_handler_at_work :
    let log : Handler := ⟨.log, fun _ => (Token.exit ⟨2⟩ (.str "out")).start⟩
    let inner : Context :=
      [.looping [] fun _ => .aborted .abandoned, .handled ⟨.db, fun _ => .aborted .abandoned⟩,
        .scope ⟨3⟩, .serving .log ((Process.pure .null).handledBy log)]
    let w : World := { nextSerial := 4, openScopes := [⟨3⟩, ⟨2⟩, ⟨1⟩] }
    (∀ frame ∈ inner, frame.Admits (.escape ⟨2⟩)) ∧
      w.settle (log.handle .none) =
        (.suspended ⟨.escape ⟨2⟩, .value (.str "out")⟩ (.paused [] .ended), w) ∧
      ∃ w₂ : World,
        w.settle (Context.run ([.scope ⟨1⟩] ++ .scope ⟨2⟩ :: inner) (log.handle .none)) =
          w₂.settle (Context.run [.scope ⟨1⟩] (.ended (.str "out"))) ∧
        w₂.isOpen ⟨1⟩ = true := by
  intro log inner w
  have hinner : ∀ frame ∈ inner, frame.Admits (.escape ⟨2⟩) := by
    simp [inner, Frame.Admits, Kind.db]
  obtain ⟨⟨_, w₂, -, -, -, hout, hopen⟩, -, -⟩ :=
    exit_exact [.scope ⟨1⟩] hinner (w := w) (r := log.handle .none) rfl
  exact ⟨hinner, rfl, w₂, hout, (hopen ⟨1⟩ (by decide)).trans rfl⟩

end Effects
