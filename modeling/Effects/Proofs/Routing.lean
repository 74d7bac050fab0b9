import Effects.Proofs.Observation

/-!
# Routing of commands through a stack of handlers

Which layer of a stack answers a command depends on who has yielded it: the commands of the process
in the middle meet the innermost layer first, and the commands of a handler start outside its own
layer. The stack itself is nested: each layer stands in for the layers inside it, and while its
handler runs it keeps them waiting.

The reference is a `Dispatcher` without nesting. It keeps one list of those who wait for a value,
and each of them has a position: the number of layers that its commands meet. A command goes to the
last layer of its kind before the position of its yielder, and a value goes to the first in the
list. The main result is that the stack and the dispatcher show the same to whoever advances them.
-/

namespace Effects

/-- The last handler of a kind among the first `n`, with its position. -/
def nearest? (handlers : List Handler) (kind : Kind) : Nat → Option (Nat × Handler)
  | 0 => none
  | n + 1 =>
    match handlers[n]? with
    | some h => if kind = h.kind then some (n, h) else nearest? handlers kind n
    | none => nearest? handlers kind n

/-- A process and the number of layers that its commands meet. For the handler of a layer these are
the layers before it; for the process in the middle of a stack they are all of them. -/
structure Caller where
  /-- The number of layers outside. -/
  position : Nat
  /-- The process. -/
  process : Process

/-- A dispatcher between two advances. -/
inductive Dispatcher where
  /-- The next input goes to `current`; its value goes to the first of the callers, whose own value
  goes to the next, and so on. -/
  | waiting (current : Caller) (callers : List Caller)
  /-- The process in the middle has completed. -/
  | finished

/-- A dispatcher during an advance. -/
structure Turn where
  /-- The number of layers outside the one whose turn it is. -/
  position : Nat
  /-- The advance of the one whose turn it is. -/
  run : Run
  /-- Those who wait for values, the first to be served in front. -/
  callers : List Caller

/-- What one step of a dispatcher leads to. -/
inductive Turn.Progress where
  /-- The advance goes on. -/
  | goesOn (turn : Turn)
  /-- The advance ends. -/
  | shows (observed : Observed) (rest : Dispatcher)

/-- One step of a dispatcher. An act is performed. A command is answered by the nearest handler of
its kind, for which its yielder waits, and without one it is shown. A value goes to the first who
waits, and the process that has ended is dropped; when nobody waits, the value is shown, and only a
process without layers can be advanced again. A failure is shown, and nobody leaves the list. -/
def Turn.step (handlers : List Handler) (w : World) (turn : Turn) : Turn.Progress × World :=
  match turn.run with
  | .act a next =>
    let (answer, w) := w.perform a
    (.goesOn ⟨turn.position, next answer, turn.callers⟩, w)
  | .suspended kind payload rest =>
    match nearest? handlers kind turn.position with
    | some (position, h) =>
      (.goesOn ⟨position, h.handle payload, ⟨turn.position, rest⟩ :: turn.callers⟩, w)
    | none => (.shows (.suspended ⟨kind, payload⟩) (.waiting ⟨turn.position, rest⟩ turn.callers), w)
  | .completed value rest =>
    match turn.callers with
    | caller :: callers =>
      (.goesOn ⟨caller.position, caller.process.advance value, callers⟩, w.release rest.held)
    | [] =>
      (.shows (.completed value)
        (if handlers.isEmpty then .waiting ⟨turn.position, rest⟩ [] else .finished), w)
  | .failed failure rest =>
    (.shows (.failed failure) (.waiting ⟨turn.position, rest⟩ turn.callers), w)

/-- Steps until the advance ends, at most as often as `fuel` allows. -/
def Turn.finish (handlers : List Handler) :
    Nat → World → Turn → Option (Observed × Dispatcher × World)
  | 0, _, _ => none
  | fuel + 1, w, turn =>
    match turn.step handlers w with
    | (.goesOn turn, w) => turn.finish handlers fuel w
    | (.shows observed rest, w) => some (observed, rest, w)

namespace Dispatcher

/-- The dispatcher of a process that has not started. -/
def start (handlers : List Handler) (p : Process) : Dispatcher := .waiting ⟨handlers.length, p⟩ []

/-- Advances a dispatcher. -/
def advance (handlers : List Handler) (fuel : Nat) (w : World) (v : Value) :
    Dispatcher → Option (Observed × Dispatcher × World)
  | .waiting current callers =>
    Turn.finish handlers fuel w ⟨current.position, current.process.advance v, callers⟩
  | .finished => some (.failed .alreadyCompleted, .finished, w)

/-- What is seen while a dispatcher is advanced with one input after the other, and the world
afterwards. -/
def observe (handlers : List Handler) (fuel : Nat) (w : World) (d : Dispatcher) :
    List Value → Option (List Observed × World)
  | [] => some ([], w)
  | v :: inputs =>
    match d.advance handlers fuel w v with
    | some (observed, d, w) =>
      match d.observe handlers fuel w inputs with
      | some (later, w) => some (observed :: later, w)
      | none => none
    | none => none

end Dispatcher

/-! ## The layers that a command meets -/

/-- The nearest handler is the last one of its kind before the position. -/
theorem nearest?_eq_some_iff (handlers : List Handler) (kind : Kind) (n i : Nat) (h : Handler) :
    nearest? handlers kind n = some (i, h) ↔
      i < n ∧ handlers[i]? = some h ∧ h.kind = kind ∧
        ∀ j g, i < j → j < n → handlers[j]? = some g → g.kind ≠ kind := by
  induction n with
  | zero => simp [nearest?]
  | succ n ih =>
    -- a handler that is not of this kind, or none at all, at position `n` makes no difference
    have hskip (hother : ∀ g, handlers[n]? = some g → g.kind ≠ kind) :
        nearest? handlers kind n = some (i, h) ↔
          i < n + 1 ∧ handlers[i]? = some h ∧ h.kind = kind ∧
            ∀ j g, i < j → j < n + 1 → handlers[j]? = some g → g.kind ≠ kind := by
      rw [ih]
      constructor
      · rintro ⟨hi, hget, hkind, hlast⟩
        refine ⟨Nat.lt_succ_of_lt hi, hget, hkind, fun j g hij hj hg => ?_⟩
        rcases Nat.lt_succ_iff_lt_or_eq.mp hj with hj | rfl
        · exact hlast j g hij hj hg
        · exact hother g hg
      · rintro ⟨hi, hget, hkind, hlast⟩
        have hne : i ≠ n := fun heq => hother h (heq ▸ hget) hkind
        exact ⟨by omega, hget, hkind, fun j g hij hj => hlast j g hij (by omega)⟩
    unfold nearest?
    cases hn : handlers[n]? with
    | none => exact hskip fun g hg => by rw [hn] at hg; cases hg
    | some g =>
      by_cases hk : kind = g.kind
      · simp only [if_pos hk]
        constructor
        · rintro hfound
          cases hfound
          exact ⟨Nat.lt_succ_self _, hn, hk.symm, fun j g' hij hj => by omega⟩
        · rintro ⟨hi, hget, -, hlast⟩
          rcases Nat.lt_succ_iff_lt_or_eq.mp hi with hlt | rfl
          · exact (hlast n g hlt (Nat.lt_succ_self n) hn hk.symm).elim
          · rw [hn] at hget
            cases hget
            rfl
      · simp only [if_neg hk]
        refine hskip fun g' hg' => ?_
        rw [hn] at hg'
        cases hg'
        exact fun heq => hk heq.symm

/-- Several handlers applied to a process, the first one outermost. -/
def Process.handledByAll (handlers : List Handler) (p : Process) : Process :=
  handlers.foldr (fun h inner => inner.handledBy h) p

/-- Several handlers applied to a run, the first one outermost. -/
def Run.handledByAll (handlers : List Handler) (run : Run) : Run :=
  handlers.foldr (fun h inner => inner.handledBy h) run

theorem interpret_handlers (handlers : List Handler) (p : Process) :
    (Stack.mk (handlers.map Handler.toLayer)).interpret p = p.handledByAll handlers := by
  simp only [Stack.interpret, List.foldr_map]
  rfl

namespace Process

theorem handledByAll_append (outer inner : List Handler) (p : Process) :
    p.handledByAll (outer ++ inner) = (p.handledByAll inner).handledByAll outer :=
  List.foldr_append

theorem advance_handledByAll (handlers : List Handler) (p : Process) (v : Value) :
    (p.handledByAll handlers).advance v = (p.advance v).handledByAll handlers := by
  induction handlers with
  | nil => rfl
  | cons h handlers ih =>
    show ((p.handledByAll handlers).handledBy h).advance v = _
    rw [advance_handledBy, ih]
    rfl

end Process

namespace Run

theorem handledByAll_append (outer inner : List Handler) (run : Run) :
    run.handledByAll (outer ++ inner) = (run.handledByAll inner).handledByAll outer :=
  List.foldr_append

theorem handledByAll_act (handlers : List Handler) (a : Act) (next : a.Answer → Run) :
    (Run.act a next).handledByAll handlers =
      .act a fun answer => (next answer).handledByAll handlers := by
  induction handlers with
  | nil => rfl
  | cons h handlers ih =>
    show ((Run.act a next).handledByAll handlers).handledBy h = _
    rw [ih]
    rfl

theorem handledByAll_releasing (handlers : List Handler) (claims : List Claim) (next : Unit → Run) :
    (Run.releasing claims next).handledByAll handlers =
      .releasing claims fun _ => (next ()).handledByAll handlers := by
  cases claims with
  | nil => rfl
  | cons => exact handledByAll_act ..

theorem handledByAll_reporting (handlers : List Handler) (level : Level) (message : String)
    (fields : List (String × String)) (next : Unit → Run) :
    (Run.reporting level message fields next).handledByAll handlers =
      .reporting level message fields fun _ => (next ()).handledByAll handlers :=
  handledByAll_act ..

theorem handledByAll_failed (handlers : List Handler) (failure : Failure) (rest : Process) :
    (Run.failed failure rest).handledByAll handlers =
      .failed failure (rest.handledByAll handlers) := by
  induction handlers with
  | nil => rfl
  | cons h handlers ih =>
    show ((Run.failed failure rest).handledByAll handlers).handledBy h = _
    rw [ih]
    rfl

theorem handledByAll_completed (handlers : List Handler) (value : Value) (rest : Process) :
    (Run.completed value rest).handledByAll handlers =
      .completed value (if handlers.isEmpty then rest else .spent rest.held) := by
  induction handlers with
  | nil => rfl
  | cons h handlers ih =>
    show ((Run.completed value rest).handledByAll handlers).handledBy h = _
    rw [ih]
    cases handlers <;> rfl

/-- A command under the first `n` handlers goes to the nearest one of its kind, inside which its
yielder waits; without one it comes out, and its yielder is still under all of them. -/
theorem settle_suspended_handledByAll (handlers : List Handler) (kind : Kind) (payload : Payload) :
    ∀ (n : Nat), n ≤ handlers.length → ∀ (rest : Process) (w : World),
      ∃ w' : World, w'.quiet = w.quiet ∧
        w.settle ((Run.suspended kind payload rest).handledByAll (handlers.take n)) =
          match nearest? handlers kind n with
          | some (i, h) =>
            w'.settle ((Run.serving h.kind
              (rest.handledByAll ((handlers.take n).drop i))
              (h.handle payload)).handledByAll (handlers.take i))
          | none => (.suspended ⟨kind, payload⟩ (rest.handledByAll (handlers.take n)), w') := by
  intro n
  induction n with
  | zero =>
    intro _ rest w
    exact ⟨w, rfl, rfl⟩
  | succ n ih =>
    intro hn rest w
    have hget : handlers[n]? = some handlers[n] := List.getElem?_eq_getElem hn
    have htake : handlers.take (n + 1) = handlers.take n ++ [handlers[n]] :=
      List.take_succ_eq_append_getElem hn
    have hlast : ∀ run : Run, run.handledByAll (handlers.take (n + 1)) =
        (run.handledBy handlers[n]).handledByAll (handlers.take n) := fun run => by
      rw [htake, handledByAll_append]
      rfl
    rw [hlast, Run.handledBy]
    by_cases hk : kind = handlers[n].kind
    · -- The innermost of these handlers answers, so its layer is the place of the new run.
      have hdrop : (handlers.take (n + 1)).drop n = [handlers[n]] := by
        rw [htake, List.drop_left' (List.length_take_of_le (by omega))]
      simp only [nearest?, hget, if_pos hk, handledByAll_reporting, World.settle_reporting, hdrop]
      exact ⟨_, World.quiet_reported w (by simp), rfl⟩
    · -- The command is yielded again, by a process that is under one handler more.
      obtain ⟨w', hw', hsettle⟩ := ih (by omega) (rest.handledBy handlers[n])
        (w.reported [⟨.trace, "passing command through",
          [("kind", kind.shown), ("handling", handlers[n].kind.shown)], false⟩])
      refine ⟨w', hw'.trans (World.quiet_reported w (by simp)), ?_⟩
      simp only [nearest?, hget, if_neg hk, handledByAll_reporting, World.settle_reporting, hsettle]
      cases hnear : nearest? handlers kind n with
      | none =>
        simp only [htake, Process.handledByAll_append]
        rfl
      | some found =>
        obtain ⟨i, h⟩ := found
        have hi : i < n := ((nearest?_eq_some_iff handlers kind n i h).mp hnear).1
        have hdrop :
            (handlers.take (n + 1)).drop i = (handlers.take n).drop i ++ [handlers[n]] := by
          rw [htake, List.drop_append_of_le_length]
          rw [List.length_take_of_le (by omega)]
          omega
        simp only [hdrop, Process.handledByAll_append]
        rfl

end Run

/-! ## The nested stack that a dispatcher stands for -/

/-- The kind of the handler at a position. -/
def kindAt (handlers : List Handler) (position : Nat) : Kind :=
  ((handlers[position]?).map Handler.kind).getD .callCC

/-- A process with those who wait for its value: the layer at each position stands in for the next
of them, seen from there. -/
def Process.servingAll (handlers : List Handler) (position : Nat) (p : Process) :
    List Caller → Process
  | [] => p
  | caller :: callers =>
    .serving (kindAt handlers position)
      ((caller.process.servingAll handlers caller.position callers).handledByAll
        ((handlers.take caller.position).drop position)) p

/-- The same for a run. -/
def Run.servingAll (handlers : List Handler) (position : Nat) (run : Run) : List Caller → Run
  | [] => run
  | caller :: callers =>
    .serving (kindAt handlers position)
      ((caller.process.servingAll handlers caller.position callers).handledByAll
        ((handlers.take caller.position).drop position)) run

/-- The advance of the nested stack during a turn. -/
def Turn.nested (handlers : List Handler) (turn : Turn) : Run :=
  (turn.run.servingAll handlers turn.position turn.callers).handledByAll
    (handlers.take turn.position)

/-- Positions grow from each yielder to the one that waits for it, up to the process in the
middle. -/
def Seated (handlers : List Handler) : Nat → List Caller → Prop
  | position, [] => position = handlers.length
  | position, caller :: callers =>
    position < caller.position ∧ Seated handlers caller.position callers

/-- The nested processes that a dispatcher stands for. -/
def Dispatcher.StandsFor (handlers : List Handler) : Dispatcher → Process → Prop
  | .waiting current callers, p =>
    Seated handlers current.position callers ∧
      p = (current.process.servingAll handlers current.position callers).handledByAll
        (handlers.take current.position)
  | .finished, p => ∃ held, p = .spent held

theorem Seated.le {handlers : List Handler} {position : Nat} {callers : List Caller}
    (h : Seated handlers position callers) : position ≤ handlers.length := by
  induction callers generalizing position with
  | nil => exact Nat.le_of_eq h
  | cons caller callers ih => exact Nat.le_trans (Nat.le_of_lt h.1) (ih h.2)

theorem Process.advance_servingAll (handlers : List Handler) (position : Nat) (p : Process)
    (callers : List Caller) (v : Value) :
    (p.servingAll handlers position callers).advance v =
      (p.advance v).servingAll handlers position callers := by
  cases callers with
  | nil => rfl
  | cons => exact advance_serving ..

namespace Run

theorem servingAll_act (handlers : List Handler) (position : Nat) (a : Act)
    (next : a.Answer → Run) (callers : List Caller) :
    (Run.act a next).servingAll handlers position callers =
      .act a fun answer => (next answer).servingAll handlers position callers := by
  cases callers <;> rfl

theorem servingAll_failed (handlers : List Handler) (position : Nat) (failure : Failure)
    (rest : Process) (callers : List Caller) :
    (Run.failed failure rest).servingAll handlers position callers =
      .failed failure (rest.servingAll handlers position callers) := by
  cases callers <;> rfl

/-- The commands of a handler pass the layer for which it works. -/
theorem settle_servingAll_suspended (handlers : List Handler) (position : Nat) (kind : Kind)
    (payload : Payload) (rest : Process) (callers : List Caller) (outer : List Handler)
    (w : World) :
    ∃ w' : World, w'.quiet = w.quiet ∧
      w.settle (((Run.suspended kind payload rest).servingAll handlers position
          callers).handledByAll outer) =
        w'.settle ((Run.suspended kind payload
          (rest.servingAll handlers position callers)).handledByAll outer) := by
  cases callers with
  | nil => exact ⟨w, rfl, rfl⟩
  | cons caller callers =>
    simp only [servingAll, Run.serving, handledByAll_reporting, World.settle_reporting]
    exact ⟨_, World.quiet_reported w (by simp), rfl⟩

/-- The value of a handler goes to the one that waits for it, which is then the one whose turn it
is. -/
theorem servingAll_completed_cons (handlers : List Handler) {position : Nat} (value : Value)
    (rest : Process) {caller : Caller} (callers : List Caller) (h : position < caller.position) :
    ((Run.completed value rest).servingAll handlers position (caller :: callers)).handledByAll
        (handlers.take position) =
      .releasing rest.held fun _ =>
        Turn.nested handlers ⟨caller.position, caller.process.advance value, callers⟩ := by
  have hsplit : handlers.take position ++ (handlers.take caller.position).drop position =
      handlers.take caller.position := by
    have h := List.take_append_drop position (handlers.take caller.position)
    rwa [List.take_take, Nat.min_eq_left (by omega)] at h
  simp only [servingAll, Run.serving, handledByAll_releasing, Process.advance_handledByAll,
    Process.advance_servingAll, Turn.nested]
  rw [← handledByAll_append, hsplit]

end Run

/-! ## One step, and all steps of an advance -/

/-- What a step of a dispatcher has to do with the end of the advance of the nested stack: while the
step goes on, the end stays the same; when it shows something, the end shows the same. -/
def Turn.Progress.Agrees (handlers : List Handler) (w₀ : World) (ending : Step × World) :
    Turn.Progress → Prop
  | .goesOn turn =>
    Seated handlers turn.position turn.callers ∧
      ∃ w : World, w.quiet = w₀.quiet ∧ ending = w.settle (turn.nested handlers)
  | .shows observed rest =>
    ending.1.observed = observed ∧ rest.StandsFor handlers ending.1.rest ∧
      ending.2.quiet = w₀.quiet

/-- One step of the dispatcher agrees with the nested stack. -/
theorem step_agrees (handlers : List Handler) {w w₀ : World} (hw : w.quiet = w₀.quiet)
    {turn : Turn} (hseat : Seated handlers turn.position turn.callers) :
    (turn.step handlers w₀).1.Agrees handlers (turn.step handlers w₀).2
      (w.settle (turn.nested handlers)) := by
  obtain ⟨position, run, callers⟩ := turn
  cases run with
  | act a next =>
    obtain ⟨hanswer, hworld⟩ := World.quiet_perform hw a
    refine ⟨hseat, _, hworld, ?_⟩
    simp only [Turn.nested, Run.servingAll_act, Run.handledByAll_act, World.settle_act, hanswer]
    rfl
  | failed failure rest =>
    simp only [Turn.nested, Run.servingAll_failed, Run.handledByAll_failed]
    exact ⟨rfl, ⟨hseat, rfl⟩, hw⟩
  | completed value rest =>
    cases callers with
    | cons caller callers =>
      refine ⟨hseat.2, w.release rest.held, (World.quiet_perform hw (.release rest.held)).2, ?_⟩
      rw [Turn.nested, Run.servingAll_completed_cons handlers value rest callers hseat.1,
        World.settle_releasing]
    | nil =>
      -- Nobody waits: the yielder is the process in the middle, under all handlers.
      have hall : handlers.take position = handlers := by
        rw [show position = handlers.length from hseat, List.take_length]
      simp only [Turn.step, Turn.nested, Run.servingAll, hall, Run.handledByAll_completed]
      refine ⟨rfl, ?_, hw⟩
      cases handlers with
      | nil => exact ⟨hseat, by simp [Process.handledByAll, Process.servingAll, Step.rest]⟩
      | cons => exact ⟨rest.held, rfl⟩
  | suspended kind payload rest =>
    obtain ⟨w₁, hw₁, hpass⟩ := Run.settle_servingAll_suspended handlers position kind payload rest
      callers (handlers.take position) w
    obtain ⟨w₂, hw₂, hmeet⟩ := Run.settle_suspended_handledByAll handlers kind payload position
      hseat.le (rest.servingAll handlers position callers) w₁
    have hquiet : w₂.quiet = w₀.quiet := (hw₂.trans hw₁).trans hw
    simp only [Turn.step, Turn.nested, hpass, hmeet]
    cases hnear : nearest? handlers kind position with
    | none => exact ⟨rfl, ⟨hseat, rfl⟩, hquiet⟩
    | some found =>
      obtain ⟨i, h⟩ := found
      obtain ⟨hi, hget, -, -⟩ := (nearest?_eq_some_iff handlers kind position i h).mp hnear
      have hkind : kindAt handlers i = h.kind := by simp [kindAt, hget]
      refine ⟨⟨hi, hseat⟩, w₂, hquiet, ?_⟩
      simp only [Turn.nested, Run.servingAll, hkind]

/-- All steps of an advance of the dispatcher agree with the nested stack. -/
theorem finish_agrees (handlers : List Handler) {fuel : Nat} {w w₀ : World}
    (hw : w.quiet = w₀.quiet) {turn : Turn} (hseat : Seated handlers turn.position turn.callers)
    {observed : Observed} {rest : Dispatcher} {w' : World}
    (h : turn.finish handlers fuel w₀ = some (observed, rest, w')) :
    (w.settle (turn.nested handlers)).1.observed = observed ∧
      rest.StandsFor handlers (w.settle (turn.nested handlers)).1.rest ∧
      (w.settle (turn.nested handlers)).2.quiet = w'.quiet := by
  induction fuel generalizing w w₀ turn with
  | zero => simp [Turn.finish] at h
  | succ fuel ih =>
    have hstep := step_agrees handlers hw hseat
    rw [Turn.finish] at h
    generalize turn.step handlers w₀ = progress at h hstep
    obtain ⟨progress, w₁⟩ := progress
    cases progress with
    | goesOn next =>
      obtain ⟨hseat', w₂, hw₂, hend⟩ := hstep
      rw [hend]
      exact ih hw₂ hseat' h
    | shows o d =>
      simp only [Option.some.injEq, Prod.mk.injEq] at h
      obtain ⟨rfl, rfl, rfl⟩ := h
      exact hstep

/-! ## Every advance ends -/

/-- Whatever the world is, the dispatcher comes to an end of the advance. -/
def Turn.Ends (handlers : List Handler) (turn : Turn) : Prop :=
  ∀ w, ∃ fuel result, turn.finish handlers fuel w = some result

theorem Turn.Ends.of_step {handlers : List Handler} {turn : Turn}
    (h : ∀ w, match turn.step handlers w with
      | (.goesOn next, _) => next.Ends handlers
      | (.shows _ _, _) => True) : turn.Ends handlers := by
  intro w
  have hw := h w
  cases hstep : turn.step handlers w with
  | mk progress w₁ =>
    rw [hstep] at hw
    cases progress with
    | goesOn next =>
      obtain ⟨fuel, result, hfinish⟩ := hw w₁
      exact ⟨fuel + 1, result, by rw [Turn.finish, hstep]; exact hfinish⟩
    | shows observed rest => exact ⟨1, _, by rw [Turn.finish, hstep]⟩

/-- A run comes to its end if each of those who wait does when it is served. The commands of a run
go to positions before its own, and behind each answer there is a smaller run. -/
theorem Turn.ends_of_callers (handlers : List Handler) (position : Nat) :
    ∀ (run : Run) (callers : List Caller),
      (∀ caller later, callers = caller :: later → ∀ v,
        Turn.Ends handlers ⟨caller.position, caller.process.advance v, later⟩) →
      Turn.Ends handlers ⟨position, run, callers⟩ := by
  induction position using Nat.strongRecOn with
  | ind position ihPosition =>
    intro run
    induction run using Run.induct with
    | act a next ih =>
      intro callers hcallers
      exact .of_step fun w => ih _ callers hcallers
    | failed failure rest =>
      intro callers _
      exact .of_step fun _ => trivial
    | completed value rest =>
      intro callers hcallers
      cases callers with
      | nil => exact .of_step fun _ => trivial
      | cons caller callers => exact .of_step fun _ => hcallers caller callers rfl value
    | suspended kind payload rest ih =>
      intro callers hcallers
      refine .of_step fun w => ?_
      simp only [Turn.step]
      cases hnear : nearest? handlers kind position with
      | none => trivial
      | some found =>
        obtain ⟨i, h⟩ := found
        have hi := ((nearest?_eq_some_iff handlers kind position i h).mp hnear).1
        refine ihPosition i hi (h.handle payload) _ ?_
        intro caller later heq v
        simp only [List.cons.injEq] at heq
        obtain ⟨rfl, rfl⟩ := heq
        exact ih v callers hcallers

theorem Turn.ends (handlers : List Handler) (position : Nat) (run : Run) (callers : List Caller) :
    Turn.Ends handlers ⟨position, run, callers⟩ := by
  induction callers generalizing position run with
  | nil => exact Turn.ends_of_callers handlers position run [] (by simp)
  | cons caller callers ih =>
    refine Turn.ends_of_callers handlers position run _ ?_
    intro first later heq v
    simp only [List.cons.injEq] at heq
    obtain ⟨rfl, rfl⟩ := heq
    exact ih _ _

theorem Turn.finish_mono {handlers : List Handler} {fuel more : Nat} (hle : fuel ≤ more) {w : World}
    {turn : Turn} {result : Observed × Dispatcher × World}
    (h : turn.finish handlers fuel w = some result) :
    turn.finish handlers more w = some result := by
  induction fuel generalizing more w turn with
  | zero => simp [Turn.finish] at h
  | succ fuel ih =>
    obtain ⟨more, rfl⟩ : ∃ n, more = n + 1 := ⟨more - 1, by omega⟩
    rw [Turn.finish] at h ⊢
    generalize turn.step handlers w = progress at h ⊢
    obtain ⟨progress, w₁⟩ := progress
    cases progress with
    | goesOn next => exact ih (by omega) h
    | shows => exact h

/-! ## All advances -/

/-- One advance of a dispatcher agrees with the nested stack, with as much fuel as it needs. -/
theorem Dispatcher.advance_agrees {handlers : List Handler} {d : Dispatcher} {p : Process}
    (hd : d.StandsFor handlers p) {w w₀ : World} (hw : w.quiet = w₀.quiet) (v : Value) :
    ∃ enough rest w', (∀ fuel, enough ≤ fuel → d.advance handlers fuel w₀ v =
        some ((w.settle (p.advance v)).1.observed, rest, w')) ∧
      rest.StandsFor handlers (w.settle (p.advance v)).1.rest ∧
      (w.settle (p.advance v)).2.quiet = w'.quiet := by
  cases d with
  | finished =>
    obtain ⟨held, rfl⟩ := hd
    exact ⟨0, .finished, w₀, fun _ _ => rfl, ⟨held, rfl⟩, hw⟩
  | waiting current callers =>
    obtain ⟨hseat, rfl⟩ := hd
    obtain ⟨enough, ⟨observed, rest, w'⟩, hfinish⟩ :=
      Turn.ends handlers current.position (current.process.advance v) callers w₀
    have hagree := finish_agrees handlers hw hseat hfinish
    rw [Process.advance_handledByAll, Process.advance_servingAll]
    obtain ⟨hobserved, hrest, hworld⟩ := hagree
    refine ⟨enough, rest, w', fun fuel hle => ?_, hrest, hworld⟩
    rw [← hobserved] at hfinish
    exact Turn.finish_mono hle hfinish

theorem Dispatcher.observe_agrees {handlers : List Handler} (inputs : List Value) {d : Dispatcher}
    {p : Process} (hd : d.StandsFor handlers p) {w w₀ : World} (hw : w.quiet = w₀.quiet) :
    ∃ enough w', (∀ fuel, enough ≤ fuel →
        d.observe handlers fuel w₀ inputs = some (w.observe p inputs, w')) ∧
      (w.steps p inputs).2.quiet = w'.quiet := by
  induction inputs generalizing d p w w₀ with
  | nil => exact ⟨0, w₀, fun _ _ => rfl, hw⟩
  | cons v inputs ih =>
    obtain ⟨enough, rest, w₁, hadvance, hrest, hw₁⟩ := Dispatcher.advance_agrees hd hw v
    obtain ⟨more, w₂, hlater, hw₂⟩ := ih hrest hw₁
    refine ⟨max enough more, w₂, fun fuel hle => ?_, hw₂⟩
    simp only [Dispatcher.observe, hadvance fuel (by omega), hlater fuel (by omega)]
    rfl

/-- **Routing.** A stack of handlers, of any kinds and in any number, shows the same as the
dispatcher, whatever it is advanced with and in whatever world: the same commands, the same value
and the same failures, at the same inputs. The world is the same afterwards, reports aside. The
handler that the dispatcher picks is the last one of the kind before the position of the yielder. -/
theorem stack_observe_eq_dispatcher (handlers : List Handler) (p : Process) (w : World)
    (inputs : List Value) :
    (∃ enough w', (∀ fuel, enough ≤ fuel →
        (Dispatcher.start handlers p).observe handlers fuel w inputs =
          some (w.observe ((Stack.mk (handlers.map Handler.toLayer)).interpret p) inputs, w')) ∧
      (w.steps ((Stack.mk (handlers.map Handler.toLayer)).interpret p) inputs).2.quiet =
        w'.quiet) ∧
    ∀ kind n i h, nearest? handlers kind n = some (i, h) ↔
      i < n ∧ handlers[i]? = some h ∧ h.kind = kind ∧
        ∀ j g, i < j → j < n → handlers[j]? = some g → g.kind ≠ kind := by
  have hstart : (Dispatcher.start handlers p).StandsFor handlers
      ((Stack.mk (handlers.map Handler.toLayer)).interpret p) := by
    refine ⟨rfl, ?_⟩
    rw [interpret_handlers, List.take_length]
    rfl
  exact ⟨Dispatcher.observe_agrees inputs hstart rfl, nearest?_eq_some_iff handlers⟩

/-- A handler that yields its own kind again is answered by the layer outside. -/
example :
    let outer : Handler := ⟨.tag "k", fun _ => (Process.pure (.str "outer")).start⟩
    let inner : Handler := ⟨.tag "k", fun _ => (Process.perform (.tag "k") .none).start⟩
    ((Dispatcher.start [outer, inner] (.perform (.tag "k") .none)).observe [outer, inner] 8 {}
      [.null]).map Prod.fst = some [.completed (.str "outer")] := rfl

end Effects
