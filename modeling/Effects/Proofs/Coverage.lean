import Effects.Proofs.Confinement
import Effects.Proofs.Driving
import Effects.Proofs.Routing

/-!
# Stacks that cover everything

When is a stack enough for a process, so that no command ever comes out? It does not suffice that
there is a layer for every kind. The commands of a handler pass its own layer and all the layers
inside it, so what matters for a handler is the layers before its own.

`Process.Performs` says what a process performs inside, and where: within the body of a scope the
escape of that scope is expected in addition, and within a layer the commands that the layer
answers. Whatever is performed where it is expected does not come out, which is
`Process.Performs.confined`; a stack is then taken apart from the innermost layer to the outermost.
-/

namespace Effects

section

variable (evolution : Evolution)

mutual

/-- Everything that the process performs in the worlds after `w` is expected at the place where it
is performed. Any process performs what it yields. Of a process that is put together from parts, the
parts are looked at: in the body of a running scope its own escape is expected as well, and inside a
layer the commands that reach the layer, while the handler performs what is expected around it. -/
inductive Process.Performs : (Command → Prop) → Process → World → Prop where
  | yields {expected : Command → Prop} {p : Process} {w : World}
    (h : p.Confined evolution expected w) : Process.Performs expected p w
  | lazy {expected : Command → Prop} {build : Unit → Run} {w : World}
    (h : ∀ later, evolution.allows w later → Run.Performs expected (build ()) later) :
    Process.Performs expected (.lazy build) w
  | sequence {expected : Command → Prop} {p : Process} {w : World} (owned : List Claim)
    {next : Value → Plan Process} (hp : Process.Performs expected p w)
    (hnext : ∀ later, evolution.allows w later → ∀ v, Plan.Performs expected (next v) later) :
    Process.Performs expected (p.andThenHolding owned next) w
  | map {expected : Command → Prop} {p : Process} {w : World} {f : Value → Plan Value}
    (hf : ∀ later, evolution.allows w later → ∀ v, (f v).KeepsTo evolution later)
    (hp : Process.Performs expected p w) :
    Process.Performs expected (p.map f) w
  | fold {expected : Command → Prop} {w : World} (owned : List Claim) (items : List Value)
    (init : Value) {f : Value → Value → Run}
    (hf : ∀ later, evolution.allows w later → ∀ acc item,
      Run.Performs expected (f acc item) later) :
    Process.Performs expected (.foldHolding owned items init f) w
  | scope {expected : Command → Prop} {w : World} (token : Token) (held : List Claim)
    {enter : Token → Run}
    (hbody : ∀ later, evolution.allows w later →
      Run.Performs (fun command => command.kind = .escape token ∨ expected command) (enter token)
        later) :
    Process.Performs expected (.scope token held enter) w
  | handled {expected : Command → Prop} {p : Process} {w : World} {h : Handler}
    (reaches : Payload → Prop)
    (hp : Process.Performs
      (fun command => if command.kind = h.kind then reaches command.payload else expected command)
      p w)
    (hh : ∀ later, evolution.allows w later → ∀ payload, reaches payload →
      Run.Performs expected (h.handle payload) later) :
    Process.Performs expected (p.handledBy h) w
  | threaded {expected : Command → Prop} {p : Process} {w : World} {σ : Type} {l : Threaded σ}
    (hl : l.KeepsTo evolution w)
    (hp : Process.Performs (fun command => command.kind = l.kind ∨ expected command) p w) :
    Process.Performs expected (p.threadedBy l l.initial) w

/-- The same for code that acts at first, and then starts a process. -/
inductive Run.Performs : (Command → Prop) → Run → World → Prop where
  | act {expected : Command → Prop} {a : Act} {w : World} {next : a.Answer → Run}
    (hallows : evolution.allows w (w.perform a).2)
    (hnext : Run.Performs expected (next (w.perform a).1) (w.perform a).2) :
    Run.Performs expected (.act a next) w
  | start {expected : Command → Prop} {p : Process} {w : World}
    (hp : Process.Performs expected p w) : Run.Performs expected p.start w

/-- The same for code that acts and builds a process. -/
inductive Plan.Performs : (Command → Prop) → Plan Process → World → Prop where
  | act {expected : Command → Prop} {a : Act} {w : World} {next : a.Answer → Plan Process}
    (hallows : evolution.allows w (w.perform a).2)
    (hnext : Plan.Performs expected (next (w.perform a).1) (w.perform a).2) :
    Plan.Performs expected (.act a next) w
  | done {expected : Command → Prop} {p : Process} {w : World}
    (hp : Process.Performs expected p w) : Plan.Performs expected (.done p) w

end

end

variable {evolution : Evolution}

mutual

/-- What is performed where it is expected does not come out. -/
theorem Process.Performs.confined {expected : Command → Prop} {p : Process} {w : World} :
    p.Performs evolution expected w → p.Confined evolution expected w
  | .yields h => h
  | .lazy h => fun later hlater _ => (h later hlater).confined
  | .sequence owned hp hnext => hp.confined.frame (Frame.confining_first owned _)
      ⟨rfl, fun later hlater v => (hnext later hlater v).confined⟩
  | .map hf hp => hp.confined.frame Frame.confining_mapped
      ⟨_, rfl, fun _ hg => Option.some.inj hg ▸ hf⟩
  | .fold owned items init hf => fun _ hlater _ => Run.confined_foldFrom owned
      (fun last hlast acc item => (hf last (evolution.trans hlater hlast) acc item).confined)
      items init
  | .scope token _ hbody => fun later hlater _ =>
      (hbody later hlater).confined.frame (Frame.confining_scope token) rfl
  | .handled reaches hp hh => hp.confined.frame (Frame.confining_handled _ reaches)
      ⟨rfl, fun later hlater payload hpayload => (hh later hlater payload hpayload).confined⟩
  | .threaded hl hp => hp.confined.frame (Frame.confining_threaded _) ⟨⟨_, rfl⟩, hl⟩

theorem Run.Performs.confined {expected : Command → Prop} {r : Run} {w : World} :
    r.Performs evolution expected w → r.Confined evolution expected w
  | .act hallows hnext => ⟨hallows, hnext.confined⟩
  | .start hp => hp.confined.advance .null

theorem Plan.Performs.confined {expected : Command → Prop} {plan : Plan Process} {w : World} :
    plan.Performs evolution expected w →
      plan.Confined evolution (fun p w => p.Confined evolution expected w) w
  | .act hallows hnext => ⟨hallows, hnext.confined⟩
  | .done hp => hp.confined

end

/-! ## Layers, one after the other -/

/-- One of the first `n` handlers answers the command, the last one that can, and the payload is one
of those that can reach this handler. -/
def Answered (handlers : List Handler) (reaches : Nat → Payload → Prop) (n : Nat)
    (command : Command) : Prop :=
  ∃ i h, nearest? handlers command.kind n = some (i, h) ∧ reaches i command.payload

theorem answered_zero (handlers : List Handler) (reaches : Nat → Payload → Prop)
    (command : Command) : ¬ Answered handlers reaches 0 command := by
  rintro ⟨i, h, hnear, -⟩
  cases hnear

theorem answered_succ {handlers : List Handler} {n : Nat} (hn : n < handlers.length)
    (reaches : Nat → Payload → Prop) (command : Command) :
    Answered handlers reaches (n + 1) command ↔
      if command.kind = handlers[n].kind then reaches n command.payload
      else Answered handlers reaches n command := by
  unfold Answered
  rw [nearest?, List.getElem?_eq_getElem hn]
  by_cases hkind : command.kind = handlers[n].kind
  · simp [hkind]
  · simp [hkind]

section

variable {handlers : List Handler} {reaches : Nat → Payload → Prop} {c : Process} {w : World}

/-- Under the layers from `n` on, a process yields what the layers before `n` answer. -/
theorem confined_handledByAll
    (hc : c.Confined evolution (Answered handlers reaches handlers.length) w)
    (hhandlers : ∀ i h, handlers[i]? = some h → ∀ payload, reaches i payload →
      ∀ later, evolution.allows w later →
        (h.handle payload).Confined evolution (Answered handlers reaches i) later)
    (n : Nat) (hn : n ≤ handlers.length) :
    (c.handledByAll (handlers.drop n)).Confined evolution (Answered handlers reaches n) w := by
  -- the induction is on the number of layers, from the innermost to the outermost
  obtain ⟨layers, hlayers⟩ : ∃ layers, n + layers = handlers.length := ⟨_, Nat.add_sub_of_le hn⟩
  induction layers generalizing n with
  | zero =>
    obtain rfl : n = handlers.length := hlayers
    rw [List.drop_length]
    exact hc
  | succ layers ih =>
    have hn : n < handlers.length := by omega
    replace ih := ih (n + 1) hn (by omega)
    rw [List.drop_eq_getElem_cons hn]
    show ((c.handledByAll (handlers.drop (n + 1))).handledBy handlers[n]).Confined evolution _ w
    have hinside : Answered handlers reaches (n + 1) = fun command =>
        if command.kind = handlers[n].kind then reaches n command.payload
        else Answered handlers reaches n command :=
      funext fun command => propext (answered_succ hn reaches command)
    rw [hinside] at ih
    refine ih.frame (Frame.confining_handled handlers[n] (reaches n)) ⟨rfl, ?_⟩
    exact fun later hlater payload hpayload =>
      hhandlers n _ (List.getElem?_eq_getElem hn) payload hpayload later hlater

end

theorem Step.ended_of_confined {step : Step} {w : World}
    (h : step.run.Confined evolution (fun _ => False) w) :
    (∃ v rest, step = .completed v rest) ∨ ∃ failure rest, step = .failed failure rest := by
  cases step with
  | suspended command rest => exact h.1.elim
  | completed v rest => exact .inl ⟨v, rest, rfl⟩
  | failed failure rest => exact .inr ⟨failure, rest, rfl⟩

/-- A process that yields nothing ends at every advance. -/
theorem Process.Confined.steps_ended {p : Process} {w : World}
    (hp : p.Confined evolution (fun _ => False) w) (inputs : List Value) :
    ∀ step ∈ (w.steps p inputs).1,
      (∃ v rest, step = .completed v rest) ∨ ∃ failure rest, step = .failed failure rest := by
  induction inputs generalizing p w with
  | nil => simp
  | cons v inputs ih =>
    obtain ⟨-, hstep⟩ := (hp.advance v).settle
    rw [World.steps_cons]
    intro step hin
    rcases List.mem_cons.mp hin with rfl | hlater
    · exact Step.ended_of_confined hstep
    · exact ih (Step.rest_confined hstep) step hlater

/-- The driver returns what such a process ends with, and drops what remains. -/
theorem Process.Confined.drive {p : Process} {w : World}
    (hp : p.Confined evolution (fun _ => False) w) :
    (∃ v rest w', w.settle p.start = (.completed v rest, w') ∧
        w.carryOut p.drive = (.ok v, w'.release rest.held)) ∨
      ∃ failure rest w', w.settle p.start = (.failed failure rest, w') ∧
        w.carryOut p.drive = (.error failure, w'.release rest.held) := by
  obtain ⟨-, hstep⟩ := (hp.advance .null).settle
  have hdrive := World.carryOut_drive w (p.advance .null)
  change w.carryOut p.drive = _ at hdrive
  change (∃ v rest w', w.settle (p.advance .null) = _ ∧ _) ∨
    ∃ failure rest w', w.settle (p.advance .null) = _ ∧ _
  generalize w.settle (p.advance .null) = ending at hstep hdrive
  obtain ⟨step, w'⟩ := ending
  rcases Step.ended_of_confined hstep with ⟨v, rest, heq⟩ | ⟨failure, rest, heq⟩
  · obtain rfl : step = .completed v rest := heq
    exact .inl ⟨v, rest, w', rfl, hdrive⟩
  · obtain rfl : step = .failed failure rest := heq
    exact .inr ⟨failure, rest, w', rfl, hdrive⟩

/-- **Effect safety.** If everything that the process performs is answered by some layer of the
stack, and everything that the handler of a layer performs, for a payload that can reach it, is
answered by a layer before its own, then nothing comes out of the stack: whatever it is advanced
with and however often, it completes or fails. Escapes are answered by the running scopes in whose
bodies they are performed. The driver returns the value or the failure with which the first advance
of the stack ends, and has no failure of its own to add. -/
theorem covered_stack_never_suspends (handlers : List Handler) (reaches : Nat → Payload → Prop)
    {c : Process} {w : World}
    (hc : c.Performs evolution (Answered handlers reaches handlers.length) w)
    (hhandlers : ∀ i h, handlers[i]? = some h → ∀ payload, reaches i payload →
      ∀ later, evolution.allows w later →
        (h.handle payload).Performs evolution (Answered handlers reaches i) later)
    (inputs : List Value) :
    let stacked := (Stack.mk (handlers.map Handler.toLayer)).interpret c
    (∀ step ∈ (w.steps stacked inputs).1,
      (∃ v rest, step = .completed v rest) ∨ ∃ failure rest, step = .failed failure rest) ∧
    ((∃ v rest w', w.settle stacked.start = (.completed v rest, w') ∧
        w.carryOut stacked.drive = (.ok v, w'.release rest.held)) ∨
      ∃ failure rest w', w.settle stacked.start = (.failed failure rest, w') ∧
        w.carryOut stacked.drive = (.error failure, w'.release rest.held)) := by
  intro stacked
  have hstacked : stacked.Confined evolution (fun _ => False) w := by
    have hlayers := confined_handledByAll hc.confined
      (fun i h hget payload hpayload later hlater =>
        (hhandlers i h hget payload hpayload later hlater).confined) 0 (Nat.zero_le _)
    have hnone : Answered handlers reaches 0 = fun _ => False :=
      funext fun command => eq_false (answered_zero handlers reaches command)
    rwa [hnone, List.drop_zero, ← interpret_handlers] at hlayers
  exact ⟨hstacked.steps_ended inputs, hstacked.drive⟩

/-- A body that logs and then leaves its scope, under the layer for `call-cc` and a layer for the
log outside of it. The body performs its own escape, and the log entry passes the layer in which it
is performed. -/
theorem covered_logging_exit :
    let log : Handler := ⟨.tag "log", fun _ => (Process.pure .null).start⟩
    let enter : Token → Run := fun token =>
      ((Process.perform (.tag "log") .none).andThen fun v => .done (token.exit v)).start
    let stacked := (Stack.mk ([log, captureHandler].map Handler.toLayer)).interpret
      (callCCCommand enter)
    (∀ step ∈ (({} : World).steps stacked [.null, .null]).1,
      (∃ v rest, step = .completed v rest) ∨ ∃ failure rest, step = .failed failure rest) ∧
    ((∃ v rest w', ({} : World).settle stacked.start = (.completed v rest, w') ∧
        ({} : World).carryOut stacked.drive = (.ok v, w'.release rest.held)) ∨
      ∃ failure rest w', ({} : World).settle stacked.start = (.failed failure rest, w') ∧
        ({} : World).carryOut stacked.drive = (.error failure, w'.release rest.held)) := by
  intro log enter
  let reaches : Nat → Payload → Prop := fun i payload => i = 1 → payload = .body [] enter
  refine @covered_stack_never_suspends .free [log, captureHandler] reaches _ _ ?_ ?_
    [.null, .null]
  · refine .yields fun _ _ _ => ⟨⟨1, captureHandler, rfl, fun _ => rfl⟩, fun _ _ _ => trivial⟩
  · intro i h hget payload hpayload later _
    match i, hget with
    | 0, hget =>
      obtain rfl : log = h := Option.some.inj hget
      exact .start (p := .pure .null) (.yields fun _ _ _ => trivial)
    | 1, hget =>
      obtain rfl : captureHandler = h := Option.some.inj hget
      obtain rfl : payload = .body [] enter := hpayload rfl
      refine .act trivial (.start (.scope _ _ fun last _ => ?_))
      -- within the scope its own `call-cc` commands would be served: there are none
      rw [← Run.handledBy_captureHandler]
      show Run.Performs _ _ (Run.handledBy captureHandler (Process.start _)) _
      rw [Process.start, ← Process.advance_handledBy]
      refine .start (.handled (fun _ => False) (.sequence [] ?_ ?_) fun _ _ _ => False.elim)
      · exact .yields fun _ _ _ => ⟨.inr ⟨0, log, rfl, nofun⟩, fun _ _ _ => trivial⟩
      · exact fun _ _ v => .done (.yields fun _ _ _ => ⟨.inl rfl, fun _ _ _ => trivial⟩)

end Effects
