import Effects.Log
import Effects.Proofs.Abort

/-!
# The protocol of advances

However a process is put together, it keeps to two rules. The input of its first advance makes no
difference, since nothing has been asked yet that the input could answer. And once it has completed,
every later advance fails and does nothing.

The first rule needs care where an advance builds another process on the way. What is built may be
started afresh, or it may be handed the very input of the advance that builds it. `Composed` is the
set of processes that are put together with the input handed on. Since what is built keeps to the
first rule itself, handing the input on comes to the same as starting afresh: the processes of this
set are those of `Assembled`, and the second rule is a matter of what remains of them at the end.
-/

namespace Effects

/-! ## Handing the input on -/

/-- Builds a process and advances it with an input. -/
def Plan.advance (plan : Plan Process) (v : Value) : Run := .ofPlan plan fun p => p.advance v

/-- Builds a process when it is first advanced, and hands it the input of that advance. -/
def Process.lazyHanding (build : Plan Process) : Process := .paused [] build.advance

/-- The loop of a fold from a given accumulator on. The first step is handed an input; the steps
after it are started afresh. The step function owns `owned`. -/
def Run.foldHanding (owned : List Claim) (f : Value → Value → Plan Process) :
    List Value → Value → Value → Run
  | [], acc, _ => .completed acc (.spent owned)
  | item :: rest, acc, v =>
    ((f acc item).advance v).step owned fun acc => foldHanding owned f rest acc .null

/-- Reduces a list with an effectful step function, and hands the input of the first advance to the
first step. The step function owns `owned`. -/
def Process.foldHanding (owned : List Claim) (items : List Value) (init : Value)
    (f : Value → Value → Plan Process) : Process :=
  .paused owned fun v => .foldHanding owned f items init v

/-- If none of the processes that a plan can build minds its first input, it makes no difference
which input is handed to what is built. -/
theorem Plan.advance_congr {plan : Plan Process} {v v' : Value}
    (h : ∀ p, plan.CanReturn p → p.advance v = p.advance v') :
    plan.advance v = plan.advance v' :=
  Run.ofPlan_congr h

/-! ## Composed processes -/

mutual

/-- The processes that are put together from leaves, sequences, folds, scopes and layers, where the
input of an advance is handed on to what the advance builds. Among their parts may be runs that
satisfy `given`: a handler may start the body that it finds in a payload, as it is or once more
inside its own layer. -/
inductive Composed : (given : Run → Prop) → Process → Prop where
  | pure {given} (v : Value) : Composed given (.pure v)
  | fail {given} (failure : Failure) : Composed given (.fail failure)
  | perform {given} (kind : Kind) {payload : Payload}
    (hbody : ∀ r, payload.Enters r → Started given r) : Composed given (.perform kind payload)
  | lazy {given} {build : Plan Process} (hbuild : ∀ p, build.CanReturn p → Composed given p) :
    Composed given (.lazyHanding build)
  /-- The second part, which may hold claims while it waits, is built from the value of the first
  and then started. -/
  | sequence {given} {p : Process} (owned : List Claim) {next : Value → Plan Process}
    (hp : Composed given p) (hnext : ∀ v q, (next v).CanReturn q → Composed given q) :
    Composed given (p.andThenHolding owned next)
  | map {given} {p : Process} (f : Value → Plan Value) (hp : Composed given p) :
    Composed given (p.map f)
  | fold {given} (owned : List Claim) (items : List Value) (init : Value)
    {f : Value → Value → Plan Process}
    (hf : ∀ acc item p, (f acc item).CanReturn p → Composed given p) :
    Composed given (.foldHanding owned items init f)
  | scope {given} (token : Token) (held : List Claim) {enter : Token → Run}
    (hbody : Started given (enter token)) : Composed given (.scope token held enter)
  | handled {given} {p : Process} {h : Handler} (hp : Composed given p)
    (hh : ∀ payload : Payload, Started
      (fun r => given r ∨ payload.Enters r ∨ ∃ body, payload.Enters body ∧ body.handledBy h = r)
      (h.handle payload)) :
    Composed given (p.handledBy h)
  | threaded {given} {p : Process} {σ : Type} (l : Threaded σ) (hp : Composed given p) :
    Composed given (p.threadedBy l l.initial)

/-- The runs of code that acts at first, and then starts a composed process. -/
inductive Started : (given : Run → Prop) → Run → Prop where
  | given {given} {r : Run} (hr : given r) : Started given r
  | act {given} (a : Act) {next : a.Answer → Run} (hnext : ∀ answer, Started given (next answer)) :
    Started given (.act a next)
  | start {given} {p : Process} (hp : Composed given p) : Started given p.start

end

variable {given : Run → Prop}

/-- A stack adds nothing to its layers. -/
theorem Composed.interpret {s : Stack}
    (hlayers : ∀ layer ∈ s.layers, ∀ p, Composed given p → Composed given (layer.apply p))
    {p : Process} (hp : Composed given p) : Composed given (s.interpret p) := by
  obtain ⟨stack⟩ := s
  induction stack with
  | nil => exact hp
  | cons layer stack ih =>
    have hinner : Composed given ((Stack.mk stack).interpret p) :=
      ih fun l hl => hlayers l (List.mem_cons_of_mem _ hl)
    exact hlayers layer List.mem_cons_self _ hinner

/-! ## The first input -/

/-- What happens in the first advance of a composed process does not depend on the input. The leaves
do not look at it, and whatever else is advanced with it keeps to this rule in turn. -/
theorem Composed.advance_eq {p : Process} : Composed given p → ∀ v v', p.advance v = p.advance v'
  | .pure _, _, _ => rfl
  | .fail _, _, _ => rfl
  | .perform _ _, _, _ => rfl
  | .lazy hbuild, v, v' => Plan.advance_congr fun p hp => (hbuild p hp).advance_eq v v'
  | .sequence _ hp _, v, v' => by
    rw [Process.advance_andThenHolding, Process.advance_andThenHolding, hp.advance_eq v v']
  | .map f hp, v, v' => by
    rw [Process.map, Process.advance_mapOnce, Process.advance_mapOnce, hp.advance_eq v v']
  | .fold _ [] _ _, _, _ => rfl
  | .fold owned (item :: rest) init hf, v, v' => by
    have hfirst := Plan.advance_congr fun p hp => (hf init item p hp).advance_eq v v'
    exact congrArg (Run.step owned _) hfirst
  | .scope _ _ _, _, _ => rfl
  | .handled hp _, v, v' => by
    rw [Process.advance_handledBy, Process.advance_handledBy, hp.advance_eq v v']
  | .threaded _ hp, v, v' => by
    rw [Process.advance_threadedBy, Process.advance_threadedBy, hp.advance_eq v v']

theorem Composed.lazyHanding_eq {build : Plan Process}
    (hbuild : ∀ p, build.CanReturn p → Composed given p) :
    Process.lazyHanding build = .lazy fun _ => build.start := by
  have hbuilt : ∀ v, build.advance v = build.start := fun v =>
    Plan.advance_congr fun p hp => (hbuild p hp).advance_eq v .null
  exact congrArg (Process.paused []) (funext hbuilt)

theorem Run.foldHanding_eq (owned : List Claim) {f : Value → Value → Plan Process}
    (hf : ∀ acc item p, (f acc item).CanReturn p → Composed given p) (items : List Value)
    (acc v : Value) :
    Run.foldHanding owned f items acc v =
      .foldFrom owned (fun acc item => (f acc item).start) items acc := by
  induction items generalizing acc v with
  | nil => rfl
  | cons item rest ih =>
    have hfirst : (f acc item).advance v = (f acc item).start :=
      Plan.advance_congr fun p hp => (hf acc item p hp).advance_eq v .null
    have hlater : (fun acc => Run.foldHanding owned f rest acc .null) =
        Run.foldFrom owned (fun acc item => (f acc item).start) rest :=
      funext fun acc => ih acc .null
    rw [Run.foldHanding, Run.foldFrom, hfirst, hlater]

theorem Composed.foldHanding_eq (owned : List Claim) {f : Value → Value → Plan Process}
    (hf : ∀ acc item p, (f acc item).CanReturn p → Composed given p) (items : List Value)
    (init : Value) :
    Process.foldHanding owned items init f =
      .foldHolding owned items init fun acc item => (f acc item).start :=
  congrArg (Process.paused owned) (funext fun v => Run.foldHanding_eq owned hf items init v)

/-! ## After the end -/

/-- A plan that builds assembled processes only, and then starts what it has built. -/
theorem Built.of_plan {layers : (σ : Type) → Threaded σ → Prop} {plan : Plan Process}
    (h : ∀ p, plan.CanReturn p → Assembled layers given p) : Built layers given plan.start := by
  induction plan with
  | done p => exact .start (h p rfl)
  | act a next ih => exact .act a fun answer => ih answer fun p hp => h p ⟨answer, hp⟩

mutual

/-- Since it makes no difference whether inputs are handed on, a composed process is assembled from
parts that are started afresh. -/
theorem Composed.assembled {given : Run → Prop} {p : Process} :
    Composed given p → Assembled (fun _ _ => True) given p
  | .pure v => .pure v
  | .fail failure => .fail failure
  | .perform kind hbody => .perform kind fun r hr => (hbody r hr).built
  | .lazy hbuild => by
    rw [Composed.lazyHanding_eq hbuild]
    exact .lazy (Built.of_plan fun p hp => (hbuild p hp).assembled)
  | .sequence owned hp hnext => .sequence owned hp.assembled fun v q hq => (hnext v q hq).assembled
  | .map f hp => .map f hp.assembled
  | .fold owned items init hf => by
    rw [Composed.foldHanding_eq owned hf]
    exact .fold owned items init fun acc item =>
      Built.of_plan fun p hp => (hf acc item p hp).assembled
  | .scope token held hbody => .scope token held hbody.built
  | .handled hp hh => .handled hp.assembled fun payload => (hh payload).built
  | .threaded _ hp => .threaded trivial hp.assembled

theorem Started.built {given : Run → Prop} {r : Run} :
    Started given r → Built (fun _ _ => True) given r
  | .given hr => .given hr
  | .act a hnext => .act a fun answer => (hnext answer).built
  | .start hp => .start hp.assembled

end

/-- Every composed process keeps to the protocol of advances. Its first input is ignored: with
another one in its place, each step is the same, and so is the world afterwards. And completion is
final: once an advance has completed, every later one, with whatever input and in whatever world,
fails as an advance after the end. Nothing else happens then but that claims are given up: no part
of the process acts, asks or reports any more. -/
theorem advance_protocol {p : Process} (hp : Composed (fun _ => False) p) (w : World) :
    (∀ x y inputs, w.steps p (x :: inputs) = w.steps p (y :: inputs)) ∧
    ∀ inputs v rest, .completed v rest ∈ (w.steps p inputs).1 → ∀ w' later,
      (∀ observed ∈ World.observe w' rest later, observed = .failed .alreadyCompleted) ∧
        ∃ claims, (w'.steps rest later).2 = w'.release claims := by
  refine ⟨fun x y inputs => ?_, fun inputs v rest hcompleted w' later => ?_⟩
  · rw [World.steps_cons, World.steps_cons, hp.advance_eq x y]
  · have hlawful : p.Lawful (fun _ _ => True) := hp.assembled.lawful fun _ h => h.elim
    have hover : rest.Over := hlawful.steps w inputs _ hcompleted
    exact hover.steps w' later

/-- A fold under two layers, built in the first advance: each of its steps asks a handler, which
asks outward. Whatever the first input is, it asks twice and completes with the second answer. -/
theorem advance_protocol_of_fold :
    let h : Handler := ⟨.tag "k", fun payload => (Process.perform (.tag "ask") payload).start⟩
    let p := (Stack.mk [collectLogs.toLayer, h.toLayer]).interpret (.lazyHanding (.done
      (.foldHanding [] [.str "a", .str "b"] .null fun _ item =>
        .done (.perform (.tag "k") (.value item)))))
    Composed (fun _ => False) p ∧
      World.observe {} p [.str "x", .str "1", .str "2"] =
        [.suspended ⟨.tag "ask", .value (.str "a")⟩, .suspended ⟨.tag "ask", .value (.str "b")⟩,
          .completed (.obj [("logs", .list []), ("value", .str "2")])] ∧
      (∀ y, World.steps {} p [.str "x", .str "1", .str "2"] =
        World.steps {} p [y, .str "1", .str "2"]) ∧
      ∃ v rest, .completed v rest ∈ (World.steps {} p [.str "x", .str "1", .str "2"]).1 ∧
        ∀ w later, ∀ observed ∈ World.observe w rest later,
          observed = .failed .alreadyCompleted := by
  intro h p
  have hp : Composed (fun _ => False) p := by
    apply Composed.interpret
    · simp only [List.forall_mem_cons]
      refine ⟨fun q hq => .threaded collectLogs hq, fun q hq => .handled hq fun payload => ?_,
        by simp⟩
      exact .start (.perform _ fun r hr => .given (.inr (.inl hr)))
    · refine .lazy ?_
      rintro _ rfl
      refine .fold _ _ _ ?_
      rintro acc item _ rfl
      exact .perform _ fun _ hr => hr.elim
  obtain ⟨hfirst, hfinal⟩ := advance_protocol hp {}
  have hends : ∃ v rest,
      .completed v rest ∈ (World.steps {} p [.str "x", .str "1", .str "2"]).1 :=
    ⟨_, _, List.mem_cons_of_mem _ (List.mem_cons_of_mem _ List.mem_cons_self)⟩
  obtain ⟨v, rest, hrest⟩ := hends
  refine ⟨hp, rfl, fun y => hfirst _ y _, v, rest, hrest, fun w later => ?_⟩
  exact (hfinal _ v rest hrest w later).1

end Effects
