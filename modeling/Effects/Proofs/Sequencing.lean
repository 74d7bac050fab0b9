import Effects.Proofs.Protocol
import Effects.Proofs.Transcript
import Effects.Proofs.Unseen

/-!
# The laws of sequences

Sequences are associative and have the processes that complete at once as their units; maps are
sequences whose second part completes at once; and a process that is built by its first advance is
the process that is built.

The two sides of a law are different contexts around the same run: one part after the other, or a
sequence inside a sequence. All their frames wait for a value and answer nothing, so by
`Context.alike_run` there is one thing to compare, namely how the two sides go on with a value.

Associativity needs more care. A sequence inside a sequence drops its second part before the third
is built, and in a sequence that is nested to the right the second part is still there then. The two
orders come to the same in a world in which the third part cannot see the second, so here the runs
are compared together with their worlds: `Run.AlikeIn`.

The process that a continuation builds is advanced with `null` first, and not with the input that
the sequence has received. No law would hold for a process that minds this, so the first law
speaks of processes that have not been asked for anything yet: `Process.Unasked`.
-/

namespace Effects

/-- The input of the first advance makes no difference. -/
def Process.Unasked (p : Process) : Prop := ∀ v v', p.advance v = p.advance v'

/-! ## Second parts -/

theorem Run.dropAtEnd_releasing (claims : List Claim) (next : Unit → Run) :
    (Run.releasing claims next).dropAtEnd = .releasing claims fun _ => (next ()).dropAtEnd := by
  cases claims <;> rfl

mutual

/-- What has been dropped at its end cannot be dropped once more. -/
theorem Process.dropAtEnd_dropAtEnd : ∀ p : Process, p.dropAtEnd.dropAtEnd = p.dropAtEnd
  | .spent held => by
    have hresume : (Run.releasing held fun _ => .aborted .alreadyCompleted).dropAtEnd =
        .releasing held fun _ => .aborted .alreadyCompleted := Run.dropAtEnd_releasing held _
    exact congrArg (Process.paused held) (funext fun _ => hresume)
  | .paused held resume =>
    congrArg (Process.paused held) (funext fun v => Run.dropAtEnd_dropAtEnd (resume v))

theorem Run.dropAtEnd_dropAtEnd : ∀ r : Run, r.dropAtEnd.dropAtEnd = r.dropAtEnd
  | .act a next => congrArg (Run.act a) (funext fun answer => Run.dropAtEnd_dropAtEnd (next answer))
  | .suspended kind payload rest =>
    congrArg (Run.suspended kind payload) (Process.dropAtEnd_dropAtEnd rest)
  | .completed _ rest => Run.dropAtEnd_releasing rest.held _
  | .failed _ rest => Run.dropAtEnd_releasing rest.held _

end

/-- Giving up claims and ending with a value. -/
theorem Run.endsAs_releasing_ended (claims : List Claim) (v : Value) :
    (Run.releasing claims fun _ => .ended v).EndsAs (.completed v) :=
  .releasing (.completed v _)

theorem Run.alike_dropAtEnd (r : Run) : r.dropAtEnd.Alike r := by
  refine Context.alike_run [.second] [] ?_ ?_ (fun v rest => ?_) r
  · simp [Frame.Admits]
  · simp
  · exact .ended (Run.endsAs_releasing_ended rest.held v) (.completed v rest)

/-! ## The laws, one by one

What a sequence holds for its second part makes no difference, so the claims `owned` need not be the
same on the two sides of a law. -/

namespace Process

theorem alike_pure_andThenHolding (owned : List Claim) (next : Value → Plan Process) (v : Value) :
    ((pure v).andThenHolding owned next).Alike (.lazy fun _ => (next v).start) :=
  fun _ => .ofPlan (next v) fun p => Run.alike_dropAtEnd p.start

theorem alike_andThenHolding_pure (owned : List Claim) (m : Process) :
    (m.andThenHolding owned fun v => .done (pure v)).Alike m := by
  intro input
  rw [advance_andThenHolding]
  refine Context.alike_run [.first owned fun v => .done (pure v)] [] ?_ ?_ (fun v rest => ?_)
    (m.advance input)
  · simp [Frame.Admits]
  · simp
  · exact .ended (Run.endsAs_releasing_ended rest.held v) (.completed v rest)

theorem alike_map (owned : List Claim) (f : Value → Plan Value) (m : Process) :
    (m.map f).Alike (m.andThenHolding owned fun v => (f v).bind fun x => .done (pure x)) := by
  intro input
  rw [map, advance_mapOnce, advance_andThenHolding]
  refine Context.alike_run [.mapped (some f)]
    [.first owned fun v => (f v).bind fun x => .done (pure x)] ?_ ?_ (fun v rest => ?_)
    (m.advance input)
  · simp [Frame.Admits]
  · simp [Frame.Admits]
  · show Run.Alike (.ofPlan (f v) fun x => .completed x (rest.mapOnce none))
      (.ofPlan ((f v).bind fun x => .done (pure x))
        fun p => .releasing rest.held fun _ => p.start.dropAtEnd)
    rw [Run.ofPlan_bind]
    exact .ofPlan (f v) fun x =>
      .ended (.completed x _) (Run.endsAs_releasing_ended rest.held x)

theorem alike_map_map (f g : Value → Plan Value) (m : Process) :
    ((m.map f).map g).Alike (m.map fun v => (f v).bind g) := by
  intro input
  rw [map, map, map, advance_mapOnce, advance_mapOnce, advance_mapOnce]
  refine Context.alike_run [.mapped (some g), .mapped (some f)]
    [.mapped (some fun v => (f v).bind g)] ?_ ?_ (fun v rest => ?_) (m.advance input)
  · simp [Frame.Admits]
  · simp [Frame.Admits]
  · show Run.Alike ((Frame.mapped (some g)).run
        (.ofPlan (f v) fun x => .completed x (rest.mapOnce none)))
      (.ofPlan ((f v).bind g) fun x => .completed x (rest.mapOnce none))
    rw [Frame.run_ofPlan, Run.ofPlan_bind]
    refine .ofPlan (f v) fun x => ?_
    show Run.Alike (.ofPlan (g x) fun y => .completed y _) _
    exact .ofPlan (g x) fun y => .ended (.completed y _) (.completed y _)

theorem alike_andAlso (owned : List Claim) (m n : Process) :
    (m.andAlso n).Alike (m.andThenHolding owned fun _ => .done n) := by
  intro input
  rw [andAlso, advance_andThenHolding, advance_andThenHolding]
  refine Context.alike_run [.first n.held fun _ => .done n] [.first owned fun _ => .done n] ?_ ?_
    (fun v rest => .refl _) (m.advance input)
  · simp [Frame.Admits]
  · simp [Frame.Admits]

end Process

/-! ## Runs in worlds -/

/-- The two runs, each in its world, show the same up to the first end. When they pause, their
worlds are the same, and in every later world their rests are alike again. -/
inductive Run.AlikeIn : World → Run → World → Run → Prop where
  /-- The first run acts. -/
  | actLeft (a : Act) {next : a.Answer → Run} {w w' : World} {r' : Run}
    (h : AlikeIn (w.perform a).2 (next (w.perform a).1) w' r') : AlikeIn w (.act a next) w' r'
  /-- The second run acts. -/
  | actRight (a : Act) {next : a.Answer → Run} {w w' : World} {r : Run}
    (h : AlikeIn w r (w'.perform a).2 (next (w'.perform a).1)) : AlikeIn w r w' (.act a next)
  | suspended (kind : Kind) (payload : Payload) {w : World} {rest rest' : Process}
    (h : ∀ v later, w.nextSerial ≤ later.nextSerial →
      AlikeIn later (rest.advance v) later (rest'.advance v)) :
    AlikeIn w (.suspended kind payload rest) w (.suspended kind payload rest')
  | ended {observed : Observed} {r r' : Run} (h : r.EndsAs observed) (h' : r'.EndsAs observed)
    (w w' : World) : AlikeIn w r w' r'

namespace Run.AlikeIn

variable {w w' : World} {r r' : Run}

theorem refl (w : World) (r : Run) : AlikeIn w r w r := by
  induction r using Run.induct generalizing w with
  | act a next ih => exact .actLeft a (.actRight a (ih _ _))
  | suspended kind payload rest ih => exact .suspended kind payload fun v later _ => ih v later
  | completed v rest => exact .ended (.completed v rest) (.completed v rest) w w
  | failed failure rest => exact .ended (.failed failure rest) (.failed failure rest) w w

theorem ofPlanLeft {α : Type} (plan : Plan α) {next : α → Run}
    (h : AlikeIn (w.carryOut plan).2 (next (w.carryOut plan).1) w' r') :
    AlikeIn w (.ofPlan plan next) w' r' := by
  induction plan generalizing w with
  | done a => exact h
  | act a rest ih => exact .actLeft a (ih _ h)

theorem ofPlanRight {α : Type} (plan : Plan α) {next : α → Run}
    (h : AlikeIn w r (w'.carryOut plan).2 (next (w'.carryOut plan).1)) :
    AlikeIn w r w' (.ofPlan plan next) := by
  induction plan generalizing w' with
  | done a => exact h
  | act a rest ih => exact .actRight a (ih _ h)

theorem releasingLeft (claims : List Claim) {next : Unit → Run}
    (h : AlikeIn (w.release claims) (next ()) w' r') :
    AlikeIn w (.releasing claims next) w' r' := by
  cases claims with
  | nil => exact h
  | cons claim claims => exact .actLeft _ h

theorem releasingRight (claims : List Claim) {next : Unit → Run}
    (h : AlikeIn w r (w'.release claims) (next ())) :
    AlikeIn w r w' (.releasing claims next) := by
  cases claims with
  | nil => exact h
  | cons claim claims => exact .actRight _ h

end Run.AlikeIn

theorem Run.EndsAs.observed_dialogue {r : Run} {observed : Observed} (h : r.EndsAs observed)
    (w : World) (answers : List Value) : (r.dialogue w answers).observed = [observed] := by
  induction h generalizing w with
  | completed v rest => rfl
  | failed failure rest => rfl
  | released claims _ ih => exact ih (w.release claims)

theorem Run.AlikeIn.observed_dialogue {w w' : World} {r r' : Run} (h : Run.AlikeIn w r w' r')
    (answers : List Value) :
    (r.dialogue w answers).observed = (r'.dialogue w' answers).observed := by
  induction h generalizing answers with
  | actLeft a _ ih => exact ih answers
  | actRight a _ ih => exact ih answers
  | @suspended kind payload w rest rest' h ih =>
    cases answers with
    | nil => rfl
    | cons v answers =>
      rw [dialogue_answered, dialogue_answered]
      exact congrArg (List.cons _) (ih v w (Nat.le_refl _) answers)
  | ended h h' w w' => rw [h.observed_dialogue, h'.observed_dialogue]

/-- Processes that are alike in a world cannot be told apart in it, up to the first end. -/
theorem World.observe_alikeIn {w : World} {p p' : Process}
    (h : ∀ v, Run.AlikeIn w (p.advance v) w (p'.advance v)) (inputs : List Value) :
    Observed.upToEnd (w.observe p inputs) = Observed.upToEnd (w.observe p' inputs) := by
  cases inputs with
  | nil => rfl
  | cons v answers =>
    rw [observe_eq_dialogue, observe_eq_dialogue]
    exact (h v).observed_dialogue answers

theorem Context.reports_of_silent {context : Context} (hsilent : ∀ frame ∈ context, frame.Silent)
    (kind : Kind) : reports kind context = [] :=
  List.flatMap_eq_nil_iff.mpr fun frame hframe =>
    (hsilent frame (List.mem_reverse.mp hframe) kind).2

/-- Two contexts that say nothing are alike around the same run in a world, if they go on alike
wherever the run completes. -/
theorem Context.alikeIn_run (context context' : Context)
    (hsilent : ∀ frame ∈ context, frame.Silent) (hsilent' : ∀ frame ∈ context', frame.Silent)
    {r : Run} {w : World}
    (h : r.AtEnd (fun v rest later => Run.AlikeIn later (run context (.completed v rest))
      later (run context' (.completed v rest))) w) :
    Run.AlikeIn w (run context r) w (run context' r) := by
  induction r using Run.induct generalizing w with
  | act a next ih =>
    rw [run_act, run_act]
    exact .actLeft a (.actRight a (ih _ h))
  | suspended kind payload rest ih =>
    rw [run_suspended fun frame hframe => (hsilent frame hframe kind).1,
      run_suspended fun frame hframe => (hsilent' frame hframe kind).1,
      reports_of_silent hsilent, reports_of_silent hsilent']
    refine .suspended kind payload fun v later hlater => ?_
    rw [advance_process, advance_process]
    exact ih v (Process.AtEnd.advance h hlater v)
  | completed v rest => exact h
  | failed failure rest =>
    exact .ended (context.endsAs_failed failure rest) (context'.endsAs_failed failure rest) w w

/-! ## Three parts in a row -/

section

variable (owned owned' owned₂ : List Claim) {f g : Value → Plan Process} {w : World}

/-- The second part of a sequence may be a sequence, or a sequence may go on with its value. The
second part is dropped after the third has been built, or before. -/
theorem Run.alikeIn_andThenHolding_dropAtEnd {r : Run}
    (h : r.AtEnd (fun v rest later => (g v).BlindTo rest.held later) w) :
    Run.AlikeIn w (r.dropAtEnd.andThenHolding owned g) w (r.andThenHolding owned g).dropAtEnd := by
  refine Context.alikeIn_run [.first owned g, .second] [.second, .first owned g] ?_ ?_
    (h.mono fun v rest later hblind => ?_)
  · simp [Frame.silent_first, Frame.silent_second]
  · simp [Frame.silent_first, Frame.silent_second]
  · show Run.AlikeIn later ((Frame.first owned g).run (.releasing rest.held fun _ => .ended v))
      later (Frame.second.run
        (.ofPlan (g v) fun p => .releasing rest.held fun _ => p.start.dropAtEnd))
    rw [Frame.run_releasing, Frame.run_ofPlan]
    refine .releasingLeft rest.held (.ofPlanLeft (g v) (.ofPlanRight (g v) ?_))
    rw [Frame.run_releasing, World.carryOut_release_of_blind hblind]
    refine .releasingRight rest.held ?_
    show Run.AlikeIn _ (Run.dropAtEnd _) _ (Run.dropAtEnd (Run.dropAtEnd _))
    rw [Run.dropAtEnd_dropAtEnd]
    exact .refl _ _

theorem Process.alikeIn_andThenHolding_andThenHolding {m : Process}
    (h : m.AtEnd (fun v _ later => (f v).UnseenBy g later) w) (input : Value) :
    Run.AlikeIn w (((m.andThenHolding owned f).andThenHolding owned' g).advance input)
      w ((m.andThenHolding owned₂ fun v =>
        (f v).bind fun p => .done (p.andThenHolding owned' g)).advance input) := by
  rw [advance_andThenHolding, advance_andThenHolding, advance_andThenHolding]
  refine Context.alikeIn_run [.first owned' g, .first owned f]
    [.first owned₂ fun v => (f v).bind fun p => .done (p.andThenHolding owned' g)] ?_ ?_
    ((h.advance (Nat.le_refl _) input).mono fun v rest later hunseen => ?_)
  · simp [Frame.silent_first]
  · simp [Frame.silent_first]
  · show Run.AlikeIn later ((Frame.first owned' g).run
        (.ofPlan (f v) fun p => .releasing rest.held fun _ => p.start.dropAtEnd))
      later (.ofPlan ((f v).bind fun p => .done (p.andThenHolding owned' g))
        fun q => .releasing rest.held fun _ => q.start.dropAtEnd)
    rw [Frame.run_ofPlan, Run.ofPlan_bind]
    refine .ofPlanLeft (f v) (.ofPlanRight (f v) ?_)
    generalize hbuilt : later.carryOut (f v) = built
    have hstart : (built.1.andThenHolding owned' g).start = built.1.start.andThenHolding owned' g :=
      advance_andThenHolding owned' g built.1 .null
    rw [Frame.run_releasing, Run.ofPlan, hstart]
    refine .releasingLeft rest.held (.releasingRight rest.held ?_)
    have hserial := World.nextSerial_release built.2 rest.held
    rw [Plan.UnseenBy, hbuilt] at hunseen
    exact Run.alikeIn_andThenHolding_dropAtEnd owned' (hunseen.advance hserial.ge .null)

end

/-! ## Processes that are built on the way -/

/-- To advance a process that is still to be built is to build it and to advance what is built. -/
theorem World.observe_lazyHanding (w : World) (build : Plan Process) (inputs : List Value) :
    w.observe (.lazyHanding build) inputs =
      (w.carryOut build).2.observe (w.carryOut build).1 inputs := by
  cases inputs with
  | nil => rfl
  | cons v inputs =>
    have hbuilt : w.settle ((Process.lazyHanding build).advance v) =
        (w.carryOut build).2.settle ((w.carryOut build).1.advance v) := settle_ofPlan ..
    rw [observe_cons, observe_cons, hbuilt]

/-- Where the input is not handed on, what is built receives `null`. -/
theorem World.observe_lazy (w : World) (build : Plan Process) (v : Value) (inputs : List Value) :
    w.observe (.lazy fun _ => build.start) (v :: inputs) =
      (w.carryOut build).2.observe (w.carryOut build).1 (.null :: inputs) := by
  have hbuilt : w.settle ((Process.lazy fun _ => build.start).advance v) =
      (w.carryOut build).2.settle ((w.carryOut build).1.advance .null) := settle_ofPlan ..
  rw [observe_cons, observe_cons, hbuilt]

theorem World.observe_lazy_of_unasked (w : World) {build : Plan Process}
    (h : (w.carryOut build).1.Unasked) (inputs : List Value) :
    w.observe (.lazy fun _ => build.start) inputs =
      (w.carryOut build).2.observe (w.carryOut build).1 inputs := by
  cases inputs with
  | nil => rfl
  | cons v inputs =>
    rw [World.observe_lazy, observe_cons, observe_cons, h .null v]

/-! ## The laws -/

/-- Sequencing obeys the laws of a monad, as far as anybody can observe up to the first end, in any
world and whatever the inputs are. Continuations may act before they have built a process, and maps
before they have a value.

A value on the left of a sequence is handed to the continuation, and what the continuation builds is
advanced with `null`, which makes no difference if it has not been asked for anything yet;
completing at once on the right changes nothing. A sequence of three parts may be put together from
either end: always, if the last continuation is a function to processes, and in general if the last
continuation cannot see what remains of the second part, which it never can if it does not ask about
scopes (`Process.unseenBy_of_blind`). A map is a sequence whose second part completes at once, so
maps compose; to discard a value is to go on with a constant; and a process that is still to be
built is the one that is built. -/
theorem sequencing_laws (w : World) (inputs : List Value) :
    (∀ (v : Value) (owned : List Claim) (f : Value → Plan Process),
      (∀ input, Observed.upToEnd
          (w.observe ((Process.pure v).andThenHolding owned f) (input :: inputs)) =
        Observed.upToEnd
          ((w.carryOut (f v)).2.observe (w.carryOut (f v)).1 (.null :: inputs))) ∧
      ((w.carryOut (f v)).1.Unasked →
        Observed.upToEnd (w.observe ((Process.pure v).andThenHolding owned f) inputs) =
          Observed.upToEnd ((w.carryOut (f v)).2.observe (w.carryOut (f v)).1 inputs))) ∧
    (∀ (m : Process) (owned : List Claim),
      Observed.upToEnd (w.observe (m.andThenHolding owned fun v => .done (.pure v)) inputs) =
        Observed.upToEnd (w.observe m inputs)) ∧
    (∀ (m : Process) (owned owned' owned₂ : List Claim) (f : Value → Plan Process),
      (∀ g : Value → Process,
        Observed.upToEnd (w.observe
            ((m.andThenHolding owned f).andThenHolding owned' fun v => .done (g v)) inputs) =
          Observed.upToEnd (w.observe (m.andThenHolding owned₂ fun v =>
            (f v).bind fun p => .done (p.andThenHolding owned' fun v => .done (g v))) inputs)) ∧
      ∀ g : Value → Plan Process,
        m.AtEnd (fun v _ later => (f v).UnseenBy g later) w →
        Observed.upToEnd (w.observe ((m.andThenHolding owned f).andThenHolding owned' g) inputs) =
          Observed.upToEnd (w.observe (m.andThenHolding owned₂ fun v =>
            (f v).bind fun p => .done (p.andThenHolding owned' g)) inputs)) ∧
    (∀ (m : Process) (owned : List Claim) (h : Value → Plan Value),
      Observed.upToEnd (w.observe (m.map h) inputs) =
        Observed.upToEnd (w.observe
          (m.andThenHolding owned fun v => (h v).bind fun x => .done (.pure x)) inputs)) ∧
    (∀ (m : Process) (h k : Value → Plan Value),
      Observed.upToEnd (w.observe ((m.map h).map k) inputs) =
        Observed.upToEnd (w.observe (m.map fun v => (h v).bind k) inputs)) ∧
    (∀ (m n : Process) (owned : List Claim),
      Observed.upToEnd (w.observe (m.andAlso n) inputs) =
        Observed.upToEnd (w.observe (m.andThenHolding owned fun _ => .done n) inputs)) ∧
    ∀ build : Plan Process,
      w.observe (.lazyHanding build) inputs =
          (w.carryOut build).2.observe (w.carryOut build).1 inputs ∧
        ((w.carryOut build).1.Unasked → w.observe (.lazy fun _ => build.start) inputs =
          (w.carryOut build).2.observe (w.carryOut build).1 inputs) := by
  have hpure (v : Value) (owned : List Claim) (f : Value → Plan Process) (inputs : List Value) :=
    World.observe_alike (Process.alike_pure_andThenHolding owned f v) (Eq.refl w.quiet) inputs
  refine ⟨fun v owned f => ⟨fun input => ?_, fun hasked => ?_⟩, fun m owned => ?_,
    fun m owned owned' owned₂ f => ⟨fun g => ?_, fun g hunseen => ?_⟩, fun m owned h => ?_,
    fun m h k => ?_, fun m n owned => ?_, fun build => ⟨w.observe_lazyHanding build inputs,
      fun hasked => w.observe_lazy_of_unasked hasked inputs⟩⟩
  · rw [hpure, World.observe_lazy]
  · rw [hpure, World.observe_lazy_of_unasked w hasked]
  · exact World.observe_alike (Process.alike_andThenHolding_pure owned m) rfl inputs
  · refine World.observe_alikeIn
      (Process.alikeIn_andThenHolding_andThenHolding owned owned' owned₂ ?_) inputs
    have hblind (v : Value) : (Plan.done (g v)).Blind := trivial
    exact Process.atEnd_of_forall (fun v _ w => Plan.unseenBy_of_blind hblind (f v) w) m w
  · exact World.observe_alikeIn
      (Process.alikeIn_andThenHolding_andThenHolding owned owned' owned₂ hunseen) inputs
  · exact World.observe_alike (Process.alike_map owned h m) rfl inputs
  · exact World.observe_alike (Process.alike_map_map h k m) rfl inputs
  · exact World.observe_alike (Process.alike_andAlso owned m n) rfl inputs

/-- Continuations that mint tokens: the first one asks for an escape, and the second one makes a
scope and leaves it. The first of them comes after a value; both of them come after a command, in a
sequence that is nested to the left. -/
theorem sequencing_laws_of_asking :
    let f : Value → Plan Process := fun v =>
      .act .mint fun (token : Token) => .done (.perform (.escape token) (.value v))
    let g : Value → Plan Process := fun v => callCC fun token => (token.exit v).start
    let m : Process := .perform (.tag "k") .none
    let inputs : List Value := [.null, .str "a", .str "b", .str "c", .null]
    (World.carryOut {} (f (.str "v"))).1.Unasked ∧
      Observed.upToEnd ((World.carryOut {} (f (.str "v"))).2.observe
          (World.carryOut {} (f (.str "v"))).1 inputs) =
        [.suspended ⟨.escape ⟨1⟩, .value (.str "v")⟩, .completed (.str "a")] ∧
      m.AtEnd (fun v _ later => (f v).UnseenBy g later) {} ∧
      Observed.upToEnd (World.observe {} (m.andThen fun v =>
          (f v).bind fun p => .done (p.andThen g)) inputs) =
        [.suspended ⟨.tag "k", .none⟩, .suspended ⟨.escape ⟨1⟩, .value (.str "a")⟩,
          .completed (.str "b")] := by
  intro f g m inputs
  obtain ⟨hpure, -, hassoc, -⟩ := sequencing_laws {} inputs
  have hunasked : (World.carryOut {} (f (.str "v"))).1.Unasked := fun _ _ => rfl
  have htidy (token : Token) (v : Value) : (Process.perform (.escape token) (.value v)).Tidy :=
    fun _ => ⟨rfl, trivial, fun v => Run.tidy_ended v⟩
  have hdiscreet (v : Value) : (g v).Discreet := ⟨nofun, fun _ => trivial⟩
  have hunseen : m.AtEnd (fun v _ later => (f v).UnseenBy g later) {} :=
    Process.atEnd_of_forall (fun v _ w => (htidy _ v).unseenBy (World.minted_zero _) hdiscreet) m {}
  refine ⟨hunasked, ?_, hunseen, ?_⟩
  · exact ((hpure (.str "v") [] f).2 hunasked).symm.trans rfl
  · exact ((hassoc m [] [] [] f).2 g hunseen).symm.trans rfl

/-- A continuation that asks whether a scope of the second part is open, which the second part keeps
to its end. Nested to the left, the second part has been dropped by then. -/
example :
    let f : Value → Plan Process := fun v =>
      .act .mint fun (token : Token) => .act (.publish "scope" token) fun _ =>
        .done (.foldHolding [.scope token] [] v fun acc _ => .ended acc)
    let g : Value → Plan Process := fun _ =>
      .act (.published "scope") fun (token : Option Token) =>
        .act (.isOpen (token.getD ⟨0⟩)) fun (isOpen : Bool) => .done (.pure (.bool isOpen))
    let m : Process := .pure .null
    World.observe {} ((m.andThen f).andThen g) [.null] = [.completed (.bool false)] ∧
      World.observe {} (m.andThen fun v => (f v).bind fun p => .done (p.andThen g)) [.null] =
        [.completed (.bool true)] :=
  ⟨rfl, rfl⟩

end Effects
