import Mathlib.Algebra.Order.Group.Multiset
import Mathlib.Algebra.Order.Sub.Basic
import Mathlib.Data.Multiset.OrderedMonoid
import Effects.Proofs.Abort
import Effects.Proofs.Awaiting

/-!
# Who owns the scopes

A token is minted open, and it is closed by giving up the claim on its scope. Whether the right
scopes are open is therefore a matter of bookkeeping: code is `Tidy` with the tokens that it owns if
it gives up only what it owns, and hands on, to what remains of it, all that it has not given up. A
minted token is owned from then on.

All combinators are tidy, whatever they are put together from. As for other properties of whole
trees, one induction covers all frames, and for a single frame it is checked how it goes on after a
value and how it answers its own commands. `Crafted` is the set of processes that are put together
with code that keeps its books; they are tidy, and so is the bridge around them.
-/

namespace Effects

/-! ## Tokens -/

/-- The token of the scope that is claimed. -/
def Claim.token? : Claim → Option Token
  | scope token => some token
  | receiver _ => none

/-- The tokens of the scopes that are claimed. -/
def tokens (claims : List Claim) : Multiset Token := ↑(claims.filterMap Claim.token?)

@[simp]
theorem tokens_nil : tokens [] = 0 := rfl

@[simp]
theorem tokens_scope (token : Token) (claims : List Claim) :
    tokens (.scope token :: claims) = token ::ₘ tokens claims := rfl

@[simp]
theorem tokens_receiver (channel : Channel) (claims : List Claim) :
    tokens (.receiver channel :: claims) = tokens claims := rfl

@[simp]
theorem tokens_append (claims more : List Claim) :
    tokens (claims ++ more) = tokens claims + tokens more := by
  simp [tokens]

@[simp]
theorem mem_tokens {token : Token} {claims : List Claim} :
    token ∈ tokens claims ↔ .scope token ∈ claims := by
  induction claims with
  | nil => simp
  | cons claim claims ih => cases claim <;> simp [ih]

/-- The tokens that are owned after an act, by code that has owned some before. -/
def Act.leaves : (a : Act) → a.Answer → Multiset Token → Multiset Token
  | .mint, token, owned => (show Token from token) ::ₘ owned
  | .release claims, _, owned => owned - tokens claims
  | _, _, owned => owned

/-- The act gives up only scopes that are owned. -/
def Act.Allowed : Act → Multiset Token → Prop
  | .release claims, owned => tokens claims ≤ owned
  | _, _ => True

theorem Act.Allowed.add {a : Act} {owned : Multiset Token} (h : a.Allowed owned)
    (more : Multiset Token) : a.Allowed (owned + more) := by
  cases a with
  | release claims => exact le_trans h (Multiset.le_add_right owned more)
  | _ => trivial

/-- What else is owned stays as it is. -/
theorem Act.leaves_add {a : Act} {owned : Multiset Token} (h : a.Allowed owned) (answer : a.Answer)
    (more : Multiset Token) : a.leaves answer (owned + more) = a.leaves answer owned + more := by
  cases a with
  | mint => exact (Multiset.cons_add _ _ _).symm
  | release claims => exact (tsub_add_eq_add_tsub h).symm
  | _ => rfl

/-! ## Tidy code -/

/-- The operation gives up only what it owns, and where it rests it holds all the rest. When it
ends, it owns nothing any more. -/
def Operation.Tidy : Operation → Multiset Token → Prop
  | .settled _, owned => owned = 0
  | .act a next, owned => a.Allowed owned ∧ ∀ answer, (next answer).Tidy (a.leaves answer owned)
  | .sleep _ held next, owned => tokens held = owned ∧ next.Tidy owned
  | .receive _ held next, owned => tokens held = owned ∧ ∀ outcome, (next outcome).Tidy owned

/-- An operation that owns what it holds before it starts. -/
def Pending.Tidy (pending : Pending) : Prop := pending.start.Tidy (tokens pending.held)

mutual

/-- Whatever the process is advanced with, it is tidy with what it has held. -/
def Process.Tidy : Process → Prop
  | .spent _ => True
  | .paused held resume => ∀ v, (resume v).Tidy (tokens held)

/-- The advance gives up only what it owns. At its end the rest is held by the process that remains,
or by the payload of the command that is yielded, and both are tidy. -/
def Run.Tidy : Run → Multiset Token → Prop
  | .act a next, owned => a.Allowed owned ∧ ∀ answer, (next answer).Tidy (a.leaves answer owned)
  | .suspended _ payload rest, owned =>
    tokens payload.held + tokens rest.held = owned ∧ payload.Tidy ∧ rest.Tidy
  | .completed _ rest, owned => tokens rest.held = owned ∧ rest.Tidy
  | .failed _ rest, owned => tokens rest.held = owned ∧ rest.Tidy

/-- The code in a payload is tidy with what the payload has held. -/
def Payload.Tidy : Payload → Prop
  | .none => True
  | .value _ => True
  | .future pending => pending.Tidy
  | .body held enter => ∀ token, (enter token).Tidy (tokens held)

end

/-- The plan gives up only what it owns, and has what it owns at its end as `ends` requires of its
result. -/
def Plan.Tidy {α : Type} (ends : α → Multiset Token → Prop) : Plan α → Multiset Token → Prop
  | .done a, owned => ends a owned
  | .act a next, owned =>
    a.Allowed owned ∧ ∀ answer, (next answer).Tidy ends (a.leaves answer owned)

/-- The plan has given up, at its end, all that it has owned. -/
abbrev Plan.GivesUp {α : Type} (plan : Plan α) (owned : Multiset Token) : Prop :=
  plan.Tidy (fun _ left => left = 0) owned

/-- The plan builds a tidy process, which holds all that is owned by then. -/
abbrev Plan.BuildsTidy (plan : Plan Process) (owned : Multiset Token) : Prop :=
  plan.Tidy (fun p left => p.Tidy ∧ tokens p.held = left) owned

theorem Process.tidy_spent (held : List Claim) : (Process.spent held).Tidy := trivial

theorem Process.Tidy.advance {p : Process} (hp : p.Tidy) (v : Value) :
    (p.advance v).Tidy (tokens p.held) := by
  cases p with
  | spent held => exact ⟨rfl, Process.tidy_spent held⟩
  | paused held resume => exact hp v

theorem Payload.Tidy.enters {payload : Payload} (h : payload.Tidy) {r : Run}
    (hr : payload.Enters r) : r.Tidy (tokens payload.held) := by
  cases payload with
  | body held enter =>
    obtain ⟨token, rfl⟩ := hr
    exact h token
  | _ => exact hr.elim

theorem Payload.tidy_of {payload : Payload}
    (hbody : ∀ r, payload.Enters r → r.Tidy (tokens payload.held))
    (hfuture : ∀ pending, payload = .future pending → pending.Tidy) : payload.Tidy := by
  cases payload with
  | none | value v => trivial
  | future pending => exact hfuture pending rfl
  | body held enter => exact fun token => hbody _ ⟨token, rfl⟩

namespace Run

@[simp]
theorem tidy_ended (v : Value) : (Run.ended v).Tidy 0 := ⟨rfl, Process.tidy_spent []⟩

@[simp]
theorem tidy_aborted (failure : Failure) : (Run.aborted failure).Tidy 0 :=
  ⟨rfl, Process.tidy_spent []⟩

theorem tidy_releasing {claims : List Claim} {next : Unit → Run} {left : Multiset Token}
    (h : (next ()).Tidy left) : (Run.releasing claims next).Tidy (tokens claims + left) := by
  cases claims with
  | nil =>
    rw [tokens_nil, zero_add]
    exact h
  | cons claim claims =>
    refine ⟨Multiset.le_add_right _ _, fun _ => ?_⟩
    show (next ()).Tidy (tokens (claim :: claims) + left - tokens (claim :: claims))
    rwa [add_tsub_cancel_left]

/-- Code that gives up all that it owns. -/
theorem tidy_dropping {claims : List Claim} {next : Unit → Run} (h : (next ()).Tidy 0) :
    (Run.releasing claims next).Tidy (tokens claims) := by
  have hall : (Run.releasing claims next).Tidy (tokens claims + 0) := tidy_releasing h
  rwa [add_zero] at hall

/-- A plan is carried out while more is owned, and what comes after it owns what is left and that.
-/
theorem tidy_ofPlan {α : Type} {ends : α → Multiset Token → Prop} {plan : Plan α}
    {owned more : Multiset Token} (hplan : plan.Tidy ends owned) {next : α → Run}
    (hnext : ∀ a left, ends a left → (next a).Tidy (left + more)) :
    (Run.ofPlan plan next).Tidy (owned + more) := by
  induction plan generalizing owned with
  | done a => exact hnext a owned hplan
  | act a rest ih =>
    refine ⟨hplan.1.add more, fun answer => ?_⟩
    rw [Act.leaves_add hplan.1]
    exact ih answer (hplan.2 answer)

theorem tidy_reportingAll {events : List Event} {next : Run} {owned : Multiset Token}
    (h : next.Tidy owned) : (Run.reportingAll events next).Tidy owned := by
  induction events with
  | nil => exact h
  | cons event events ih => exact ⟨trivial, fun _ => ih⟩

end Run

/-! ## Frames around tidy processes -/

namespace Frame

/-- The tokens that a frame owns itself. -/
def owned : Frame → Multiset Token
  | first owned _ => tokens owned
  | looping owned _ => tokens owned
  | scope token => {token}
  | serving _ inner => tokens inner.held
  | _ => 0

theorem tokens_process (frame : Frame) (p : Process) :
    tokens (frame.process p).held = tokens p.held + frame.owned := by
  cases frame <;> cases p <;>
    simp [process, owned, Process.held, Process.andThenHolding, Process.dropAtEnd, Process.mapOnce,
      Process.step, Process.within, Process.handledBy, Process.serving, Process.threadedBy,
      add_comm, ← Multiset.singleton_add]

theorem tokens_abandon (frame : Frame) (rest : Process) :
    tokens (frame.abandon rest).1 + tokens (frame.abandon rest).2.held =
      tokens rest.held + frame.owned := by
  have hprocess := frame.tokens_process rest
  cases frame <;>
    first
    | exact (zero_add _).trans hprocess
    | simp [abandon, owned, Process.held, add_comm, ← Multiset.singleton_add]

/-- What has to be checked of the frames of a family, each of which can turn into another one of the
family while it answers commands: how they go on after a value, and how they answer their own
commands. -/
structure Tidying (family : Frame → Prop) : Prop where
  completed : ∀ frame, family frame → ∀ v (rest : Process),
    (∀ g, family g → (g.process rest).Tidy) →
    (frame.run (.completed v rest)).Tidy (tokens rest.held + frame.owned)
  answered : ∀ frame, family frame → ∀ kind (payload : Payload) (rest : Process),
    ¬ frame.Admits kind → payload.Tidy →
    (∀ g, family g → ∀ r, payload.Enters r → (g.run r).Tidy (tokens payload.held + g.owned)) →
    (∀ g, family g → (g.process rest).Tidy) →
    (frame.run (.suspended kind payload rest)).Tidy
      (tokens payload.held + tokens rest.held + frame.owned)

end Frame

mutual

theorem Process.Tidy.frame {family : Frame → Prop} (htidy : Frame.Tidying family) :
    ∀ {p : Process}, p.Tidy → ∀ {frame : Frame}, family frame → (frame.process p).Tidy
  | .spent held, _, frame, _ => by
    by_cases hkeeps : frame.Keeps
    · obtain ⟨claims, hspent⟩ := hkeeps.process_spent held
      rw [hspent]
      exact Process.tidy_spent claims
    · obtain ⟨claims, hdropped⟩ := Frame.process_spent_of_not_keeps hkeeps held
      rw [hdropped]
      exact fun _ => Run.tidy_dropping (Run.tidy_aborted _)
  | .paused held resume, hp, frame, hframe => by
    obtain ⟨claims, hpaused⟩ := frame.process_paused held resume
    have howned : tokens claims = tokens held + frame.owned := by
      have hprocess := frame.tokens_process (.paused held resume)
      rw [hpaused] at hprocess
      exact hprocess
    rw [hpaused]
    intro v
    rw [howned]
    exact Run.Tidy.frame htidy (r := resume v) (hp v) hframe

theorem Run.Tidy.frame {family : Frame → Prop} (htidy : Frame.Tidying family) :
    ∀ {r : Run} {owned : Multiset Token}, r.Tidy owned → ∀ {frame : Frame}, family frame →
      (frame.run r).Tidy (owned + frame.owned)
  | .act a next, owned, ⟨hallowed, hnext⟩, frame, hframe => by
    rw [Frame.run_act]
    refine ⟨hallowed.add frame.owned, fun answer => ?_⟩
    rw [Act.leaves_add hallowed]
    exact Run.Tidy.frame htidy (r := next answer) (hnext answer) hframe
  | .suspended kind payload rest, owned, ⟨howned, hpayload, hrest⟩, frame, hframe => by
    have hbodies : ∀ g, family g → ∀ r, payload.Enters r →
        (g.run r).Tidy (tokens payload.held + g.owned) :=
      fun g hg r hin => Payload.Tidy.frame htidy payload hpayload hg r hin
    have hrests : ∀ g, family g → (g.process rest).Tidy :=
      fun g hg => Process.Tidy.frame htidy (p := rest) hrest hg
    subst howned
    by_cases hadmits : frame.Admits kind
    · rw [Frame.run_suspended hadmits]
      refine Run.tidy_reportingAll ⟨?_, hpayload, hrests frame hframe⟩
      rw [frame.tokens_process, add_assoc]
    · exact htidy.answered frame hframe kind payload rest hadmits hpayload hbodies hrests
  | .completed v rest, owned, ⟨howned, hrest⟩, frame, hframe => by
    subst howned
    exact htidy.completed frame hframe v rest
      fun g hg => Process.Tidy.frame htidy (p := rest) hrest hg
  | .failed failure rest, owned, ⟨howned, hrest⟩, frame, hframe => by
    have hleft : (frame.abandon rest).2.Tidy := by
      have hprocess := Process.Tidy.frame htidy (p := rest) hrest hframe
      cases frame <;> first | exact hprocess | exact Process.tidy_spent []
    rw [Frame.run_failed, ← howned, ← frame.tokens_abandon]
    exact Run.tidy_releasing ⟨rfl, hleft⟩

theorem Payload.Tidy.frame {family : Frame → Prop} (htidy : Frame.Tidying family) :
    ∀ payload : Payload, payload.Tidy → ∀ {frame : Frame}, family frame →
      ∀ r, payload.Enters r → (frame.run r).Tidy (tokens payload.held + frame.owned)
  | .body _ enter, hpayload, _, hframe, _, ⟨token, hr⟩ =>
    hr ▸ Run.Tidy.frame htidy (r := enter token) (hpayload token) hframe

end

/-! ## The combinators -/

namespace Frame

/-- Of frames that answer no command only the way in which they go on after a value is to be
checked. -/
theorem Tidying.of_admits {family : Frame → Prop}
    (hadmits : ∀ frame, family frame → ∀ kind, frame.Admits kind)
    (hcompleted : ∀ frame, family frame → ∀ v (rest : Process),
      (∀ g, family g → (g.process rest).Tidy) →
      (frame.run (.completed v rest)).Tidy (tokens rest.held + frame.owned)) : Tidying family where
  completed := hcompleted
  answered frame hframe kind _ _ hnot := (hnot (hadmits frame hframe kind)).elim

theorem tidying_second : Tidying (· = .second) := by
  refine .of_admits (fun _ h _ => h ▸ trivial) ?_
  rintro _ rfl v rest -
  show (Run.releasing rest.held fun _ => .ended v).Tidy (tokens rest.held + 0)
  exact Run.tidy_releasing (Run.tidy_ended v)

/-- The second part is built while the first part is still there. -/
theorem tidying_first {held : List Claim} {next : Value → Plan Process}
    (hnext : ∀ v, (next v).BuildsTidy (tokens held)) : Tidying (· = .first held next) := by
  refine .of_admits (fun _ h _ => h ▸ trivial) ?_
  rintro _ rfl v rest -
  show (Run.ofPlan (next v) fun p => .releasing rest.held fun _ => p.start.dropAtEnd).Tidy
    (tokens rest.held + tokens held)
  rw [add_comm]
  refine Run.tidy_ofPlan (hnext v) fun p left hp => ?_
  obtain ⟨hp, rfl⟩ := hp
  have hsecond := (hp.advance .null).frame tidying_second rfl
  rw [show second.owned = 0 from rfl, add_zero] at hsecond
  rw [add_comm]
  exact Run.tidy_releasing hsecond

theorem tidying_mapped {f : Value → Plan Value} (hf : ∀ v, (f v).GivesUp 0) :
    Tidying fun frame => frame = .mapped (some f) ∨ frame = .mapped none := by
  refine .of_admits (fun _ h _ => by rcases h with rfl | rfl <;> trivial) ?_
  rintro _ hframe v rest hrest
  have howned := (mapped none).tokens_process rest
  have hleft := hrest (.mapped none) (.inr rfl)
  rcases hframe with rfl | rfl
  · show (Run.ofPlan (f v) fun v => .completed v (rest.mapOnce none)).Tidy (tokens rest.held + 0)
    rw [add_comm]
    refine Run.tidy_ofPlan (hf v) fun v left hnone => ?_
    subst hnone
    rw [add_comm]
    exact ⟨howned, hleft⟩
  · exact ⟨howned, hleft⟩

theorem tidying_looping {owned : List Claim} {next : Value → Run}
    (hnext : ∀ v, (next v).Tidy (tokens owned)) : Tidying (· = .looping owned next) := by
  refine .of_admits (fun _ h _ => h ▸ trivial) ?_
  rintro _ rfl v rest -
  show (Run.releasing rest.held fun _ => next v).Tidy (tokens rest.held + tokens owned)
  exact Run.tidy_releasing (hnext v)

theorem tidying_serving (kind : Kind) {inner : Process} (hinner : inner.Tidy) :
    Tidying (· = .serving kind inner) := by
  refine .of_admits (fun _ h _ => h ▸ trivial) ?_
  rintro _ rfl v rest -
  show (Run.releasing rest.held fun _ => inner.advance v).Tidy
    (tokens rest.held + tokens inner.held)
  exact Run.tidy_releasing (hinner.advance v)

/-- A scope that ends closes all that its body has owned, and itself. -/
theorem tidying_scope (token : Token) : Tidying (· = .scope token) where
  completed := by
    rintro _ rfl v rest -
    have hall : tokens rest.held + (scope token).owned = tokens (.scope token :: rest.held) := by
      rw [tokens_scope, ← Multiset.singleton_add, add_comm]
      rfl
    rw [hall]
    show (Run.releasing (.scope token :: rest.held) fun _ => .ended v).Tidy _
    exact Run.tidy_dropping (Run.tidy_ended v)
  answered := by
    rintro _ rfl kind payload rest hnot - - -
    obtain rfl : kind = .escape token := Decidable.not_not.mp hnot
    have hall : tokens payload.held + tokens rest.held + (scope token).owned =
        tokens (.scope token :: (payload.held ++ rest.held)) := by
      rw [tokens_scope, tokens_append, ← Multiset.singleton_add, add_comm]
      rfl
    show ((Run.suspended (.escape token) payload rest).within token).Tidy _
    rw [Run.within_escape, hall]
    refine ⟨trivial, fun _ => Run.tidy_dropping ?_⟩
    cases payload.toValue (.escape token) with
    | ok value => exact Run.tidy_ended value
    | error failure => exact Run.tidy_aborted failure

/-- The layer of a handler is checked with the handler, which owns what is in the payload. Its runs
may start the body in a payload, and may put this same layer around it. -/
theorem tidying_handled {h : Handler}
    (hh : ∀ payload : Payload, payload.Tidy →
      (∀ r, payload.Enters r → (r.handledBy h).Tidy (tokens payload.held)) →
      (h.handle payload).Tidy (tokens payload.held)) : Tidying (· = .handled h) where
  completed := by
    rintro _ rfl v rest -
    exact ⟨(add_zero _).symm, Process.tidy_spent rest.held⟩
  answered := by
    rintro _ rfl kind payload rest hnot hpayload hbodies hrest
    have hkind : kind = h.kind := Decidable.not_not.mp hnot
    have hbodies' : ∀ r, payload.Enters r → (r.handledBy h).Tidy (tokens payload.held) :=
      fun r hr => (add_zero (tokens payload.held)) ▸ hbodies _ rfl r hr
    have hserving := (hh payload hpayload hbodies').frame
      (tidying_serving h.kind (hrest (.handled h) rfl)) rfl
    have hall : tokens payload.held + tokens rest.held + (handled h).owned =
        tokens payload.held + (serving h.kind (rest.handledBy h)).owned := by
      rw [add_assoc, ← (handled h).tokens_process]
      rfl
    show ((Run.suspended kind payload rest).handledBy h).Tidy _
    rw [Run.handledBy, if_pos hkind, hall]
    exact ⟨trivial, fun _ => hserving⟩

/-- A state layer is checked in all its states at once, since each answer can lead to another. What
an answer owns is the payload, and it gives it up. -/
theorem tidying_threaded {σ : Type} {l : Threaded σ}
    (hanswer : ∀ state payload, (l.answer state payload).GivesUp (tokens payload.held))
    (hfinish : ∀ state v, (l.finish state v).GivesUp 0) :
    Tidying fun frame => ∃ state, frame = .threaded l state where
  completed := by
    rintro _ ⟨state, rfl⟩ v rest -
    show (Run.ofPlan (l.finish state v) fun v => .completed v (.spent rest.held)).Tidy
      (tokens rest.held + 0)
    rw [add_comm]
    refine Run.tidy_ofPlan (hfinish state v) fun v left hnone => ?_
    subst hnone
    exact ⟨(zero_add _).symm, Process.tidy_spent rest.held⟩
  answered := by
    rintro _ ⟨state, rfl⟩ kind payload rest hnot - - hrest
    have hkind : kind = l.kind := Decidable.not_not.mp hnot
    show ((Run.suspended kind payload rest).threadedBy l state).Tidy _
    rw [Run.threadedBy, if_pos hkind, add_assoc]
    refine ⟨trivial, fun _ => Run.tidy_ofPlan (hanswer state payload) fun answered left hnone => ?_⟩
    obtain ⟨outcome, state'⟩ := answered
    subst hnone
    rw [zero_add, show (threaded l state).owned = (threaded l state').owned from rfl,
      ← tokens_process]
    cases outcome with
    | ok value => exact (hrest _ ⟨state', rfl⟩).advance value
    | error failure => exact ⟨rfl, hrest _ ⟨state', rfl⟩⟩

end Frame

theorem Run.Tidy.within {body : Run} {owned : Multiset Token} (h : body.Tidy owned)
    (token : Token) : (body.within token).Tidy (token ::ₘ owned) := by
  have hscope := h.frame (Frame.tidying_scope token) rfl
  rwa [add_comm] at hscope

theorem tidy_foldFrom (owned : List Claim) {f : Value → Value → Run}
    (hf : ∀ acc item, (f acc item).Tidy 0) (items : List Value) (acc : Value) :
    (Run.foldFrom owned f items acc).Tidy (tokens owned) := by
  induction items generalizing acc with
  | nil => exact ⟨rfl, Process.tidy_spent owned⟩
  | cons item items ih =>
    have hlooping : Frame.Tidying (· = .looping owned (Run.foldFrom owned f items)) :=
      Frame.tidying_looping ih
    have hstep := (hf acc item).frame hlooping rfl
    rwa [zero_add] at hstep

/-! ## Crafted processes -/

mutual

/-- The processes that are put together from leaves, sequences, folds, scopes and layers, by code
that gives up only what it owns. Among their parts may be runs that satisfy `lent`, with the tokens
that they own, and operations that satisfy `future`: the handler of a layer is put together like
everything else, but it owns what is in the payload, and it may start the body that it finds there,
as it is or once more inside its own layer, or hand an operation on. -/
inductive Crafted :
    (lent : Run → Multiset Token → Prop) → (future : Pending → Prop) → Process → Prop where
  | pure {lent future} (v : Value) : Crafted lent future (.pure v)
  | fail {lent future} (failure : Failure) : Crafted lent future (.fail failure)
  | perform {lent future} (kind : Kind) {payload : Payload}
    (hbody : ∀ r, payload.Enters r → Tended lent future r (tokens payload.held))
    (hfuture : ∀ pending, payload = .future pending → pending.Tidy ∨ future pending) :
    Crafted lent future (.perform kind payload)
  /-- What is built by the first advance may hold claims before. -/
  | lazy {lent future} {held : List Claim} {build : Value → Run}
    (hbuild : ∀ v, Tended lent future (build v) (tokens held)) :
    Crafted lent future (.paused held build)
  | sequence {lent future} {p : Process} {owned : List Claim} {next : Value → Plan Process}
    (hp : Crafted lent future p) (hnext : ∀ v, Builds lent future (next v) (tokens owned)) :
    Crafted lent future (p.andThenHolding owned next)
  | map {lent future} {p : Process} {f : Value → Plan Value} (hf : ∀ v, (f v).GivesUp 0)
    (hp : Crafted lent future p) : Crafted lent future (p.map f)
  /-- The step function may own claims, which its steps do not touch. -/
  | fold {lent future} (owned : List Claim) (items : List Value) (init : Value)
    {f : Value → Value → Run} (hf : ∀ acc item, Tended lent future (f acc item) 0) :
    Crafted lent future (.foldHolding owned items init f)
  | scope {lent future} (token : Token) {held : List Claim} {enter : Token → Run}
    (hbody : Tended lent future (enter token) (tokens held)) :
    Crafted lent future (.scope token held enter)
  | handled {lent future} {p : Process} {h : Handler} (hp : Crafted lent future p)
    (hh : ∀ payload : Payload, Tended
      (fun r owned => lent r owned ∨ owned = tokens payload.held ∧
        (payload.Enters r ∨ ∃ body, payload.Enters body ∧ body.handledBy h = r))
      (fun pending => future pending ∨ payload = .future pending)
      (h.handle payload) (tokens payload.held)) :
    Crafted lent future (p.handledBy h)
  | threaded {lent future} {p : Process} {σ : Type} {l : Threaded σ}
    (hanswer : ∀ state payload, (l.answer state payload).GivesUp (tokens payload.held))
    (hfinish : ∀ state v, (l.finish state v).GivesUp 0) (hp : Crafted lent future p) :
    Crafted lent future (p.threadedBy l l.initial)

/-- The runs of code that acts at first, and then starts a crafted process that holds all that is
owned by then. -/
inductive Tended : (lent : Run → Multiset Token → Prop) → (future : Pending → Prop) → Run →
    Multiset Token → Prop where
  | lent {lent future} {r : Run} {owned : Multiset Token} (hr : lent r owned) :
    Tended lent future r owned
  | act {lent future} (a : Act) {next : a.Answer → Run} {owned : Multiset Token}
    (hallowed : a.Allowed owned)
    (hnext : ∀ answer, Tended lent future (next answer) (a.leaves answer owned)) :
    Tended lent future (.act a next) owned
  | start {lent future} {p : Process} {owned : Multiset Token} (hp : Crafted lent future p)
    (howned : tokens p.held = owned) : Tended lent future p.start owned

/-- The plans that build a crafted process, which holds all that is owned by then. -/
inductive Builds : (lent : Run → Multiset Token → Prop) → (future : Pending → Prop) →
    Plan Process → Multiset Token → Prop where
  | done {lent future} {p : Process} {owned : Multiset Token} (hp : Crafted lent future p)
    (howned : tokens p.held = owned) : Builds lent future (.done p) owned
  | act {lent future} (a : Act) {next : a.Answer → Plan Process} {owned : Multiset Token}
    (hallowed : a.Allowed owned)
    (hnext : ∀ answer, Builds lent future (next answer) (a.leaves answer owned)) :
    Builds lent future (.act a next) owned

end

mutual

theorem Crafted.tidy {lent : Run → Multiset Token → Prop} {future : Pending → Prop} {p : Process} :
    Crafted lent future p → (∀ r owned, lent r owned → r.Tidy owned) →
      (∀ pending, future pending → pending.Tidy) → p.Tidy
  | .pure v, _, _ => fun _ => Run.tidy_ended v
  | .fail failure, _, _ => fun _ => Run.tidy_aborted failure
  | .perform _ hbody hfuture, hlent, hsent =>
    have hpayload := Payload.tidy_of (fun r hr => (hbody r hr).tidy hlent hsent)
      fun pending hpending => (hfuture pending hpending).elim id (hsent pending)
    fun _ => ⟨add_zero _, hpayload, fun v => Run.tidy_ended v⟩
  | .lazy hbuild, hlent, hsent => fun v => (hbuild v).tidy hlent hsent
  | .sequence hp hnext, hlent, hsent =>
    (hp.tidy hlent hsent).frame (Frame.tidying_first fun v => (hnext v).tidy hlent hsent) rfl
  | .map hf hp, hlent, hsent => (hp.tidy hlent hsent).frame (Frame.tidying_mapped hf) (.inl rfl)
  | .fold owned items init hf, hlent, hsent =>
    fun _ => tidy_foldFrom owned (fun acc item => (hf acc item).tidy hlent hsent) items init
  | .scope token hbody, hlent, hsent => fun _ => (hbody.tidy hlent hsent).within token
  | .handled hp hh, hlent, hsent => by
    -- the bodies that the handler may start are tidy because the process that yields them is
    refine (hp.tidy hlent hsent).frame
      (Frame.tidying_handled fun payload hpayload hbodies => ?_) rfl
    refine (hh payload).tidy (fun r owned hr => ?_) (fun pending hpending => ?_)
    · rcases hr with hr | ⟨rfl, hr | ⟨body, hbody, rfl⟩⟩
      · exact hlent r owned hr
      · exact hpayload.enters hr
      · exact hbodies body hbody
    · rcases hpending with hpending | rfl
      · exact hsent pending hpending
      · exact hpayload
  | .threaded (l := l) hanswer hfinish hp, hlent, hsent =>
    (hp.tidy hlent hsent).frame (Frame.tidying_threaded hanswer hfinish) ⟨l.initial, rfl⟩

theorem Tended.tidy {lent : Run → Multiset Token → Prop} {future : Pending → Prop} {r : Run}
    {owned : Multiset Token} : Tended lent future r owned →
      (∀ r owned, lent r owned → r.Tidy owned) → (∀ pending, future pending → pending.Tidy) →
      r.Tidy owned
  | .lent hr, hlent, _ => hlent _ _ hr
  | .act _ hallowed hnext, hlent, hsent =>
    ⟨hallowed, fun answer => (hnext answer).tidy hlent hsent⟩
  | .start hp howned, hlent, hsent => howned ▸ (hp.tidy hlent hsent).advance .null

theorem Builds.tidy {lent : Run → Multiset Token → Prop} {future : Pending → Prop}
    {plan : Plan Process} {owned : Multiset Token} : Builds lent future plan owned →
      (∀ r owned, lent r owned → r.Tidy owned) → (∀ pending, future pending → pending.Tidy) →
      plan.BuildsTidy owned
  | .done hp howned, hlent, hsent => ⟨hp.tidy hlent hsent, howned⟩
  | .act _ hallowed hnext, hlent, hsent =>
    ⟨hallowed, fun answer => (hnext answer).tidy hlent hsent⟩

end

/-- A stack adds nothing to its layers. -/
theorem Crafted.interpret {lent : Run → Multiset Token → Prop} {future : Pending → Prop} {s : Stack}
    (hlayers : ∀ layer ∈ s.layers, ∀ p, Crafted lent future p → Crafted lent future (layer.apply p))
    {p : Process} (hp : Crafted lent future p) : Crafted lent future (s.interpret p) := by
  obtain ⟨stack⟩ := s
  induction stack with
  | nil => exact hp
  | cons layer stack ih =>
    exact hlayers layer List.mem_cons_self _
      (ih fun l hl => hlayers l (List.mem_cons_of_mem _ hl))

theorem Tended.aborting {lent : Run → Multiset Token → Prop} {future : Pending → Prop}
    (claims : List Claim) (failure : Failure) :
    Tended lent future (.releasing claims fun _ => .aborted failure) (tokens claims) := by
  cases claims with
  | nil => exact .start (.fail failure) rfl
  | cons claim claims =>
    have hnone := tsub_self (tokens (claim :: claims))
    exact .act _ le_rfl fun _ => .start (.fail failure) hnone.symm

/-- The layer for `call-cc` makes a scope for each body, which owns what the body has owned, and
puts itself around the body, inside of the scope. -/
theorem Crafted.handledBy_captureHandler {lent : Run → Multiset Token → Prop}
    {future : Pending → Prop} {p : Process} (hp : Crafted lent future p) :
    Crafted lent future (p.handledBy captureHandler) := by
  refine .handled hp fun payload => ?_
  cases payload with
  | body held enter =>
    refine .act .mint trivial fun token => .start (.scope token ?_) rfl
    exact .lent (.inr ⟨rfl, .inr ⟨enter token, ⟨token, rfl⟩, Run.handledBy_captureHandler _⟩⟩)
  | none | value v => exact .start (.fail _) rfl
  | future pending => exact .aborting pending.held _

/-! ## The bridge -/

namespace Operation

theorem tidy_releasing {claims : List Claim} {next : Unit → Operation} {left : Multiset Token}
    (h : (next ()).Tidy left) : (Operation.releasing claims next).Tidy (tokens claims + left) := by
  cases claims with
  | nil =>
    rw [tokens_nil, zero_add]
    exact h
  | cons claim claims =>
    refine ⟨Multiset.le_add_right _ _, fun _ => ?_⟩
    show (next ()).Tidy (tokens (claim :: claims) + left - tokens (claim :: claims))
    rwa [add_tsub_cancel_left]

/-- An operation that ends when it has given up all that it owns. -/
theorem tidy_stopping (claims : List Claim) (outcome : Outcome) :
    (Operation.releasing claims fun _ => .settled outcome).Tidy (tokens claims) := by
  have hall : (Operation.releasing claims fun _ => .settled outcome).Tidy (tokens claims + 0) :=
    tidy_releasing rfl
  rwa [add_zero] at hall

theorem Tidy.andThen {held : List Claim} {next : Outcome → Operation}
    (hnext : ∀ outcome, (next outcome).Tidy (tokens held)) {op : Operation} {owned : Multiset Token}
    (h : op.Tidy owned) : (op.andThen held next).Tidy (owned + tokens held) := by
  induction op generalizing owned with
  | settled outcome =>
    obtain rfl : owned = 0 := h
    rw [zero_add]
    exact hnext outcome
  | act a rest ih =>
    refine ⟨h.1.add _, fun answer => ?_⟩
    rw [Act.leaves_add h.1]
    exact ih answer (h.2 answer)
  | sleep ms own rest ih => exact ⟨by rw [tokens_append, h.1], ih h.2⟩
  | receive channel own rest ih =>
    exact ⟨by rw [tokens_append, h.1], fun outcome => ih outcome (h.2 outcome)⟩

end Operation

/-- The failure of a command that nobody has answered is found out without giving up anything. -/
theorem Operation.tidy_unhandled (kind : Kind) {next : Failure → Operation} {owned : Multiset Token}
    (h : ∀ failure, (next failure).Tidy owned) :
    (Operation.ofPlan kind.unhandled next).Tidy owned := by
  cases kind with
  | tag name => exact ⟨trivial, fun _ => h _⟩
  | escape token => exact ⟨trivial, fun _ => ⟨trivial, fun _ => h _⟩⟩

theorem Run.Tidy.awaited {r : Run} {owned : Multiset Token} (h : r.Tidy owned) :
    r.awaited.Tidy owned := by
  induction r using Run.induct generalizing owned with
  | act a next ih => exact ⟨h.1, fun answer => ih answer (h.2 answer)⟩
  | completed v rest => exact h.1 ▸ Operation.tidy_stopping rest.held _
  | failed failure rest => exact h.1 ▸ Operation.tidy_stopping rest.held _
  | suspended kind payload rest ih =>
    obtain ⟨rfl, hpayload, hrest⟩ := h
    rw [Run.awaited, ← tokens_append]
    split
    · cases payload with
      | future pending =>
        rw [tokens_append]
        refine ⟨trivial, fun _ => Operation.Tidy.andThen (fun outcome => ?_) hpayload⟩
        cases outcome with
        | ok value =>
          show (rest.awaited value).Tidy (tokens rest.held)
          rw [Process.awaited_eq]
          exact ih value (hrest.advance value)
        | error failure => exact ⟨trivial, fun _ => Operation.tidy_stopping rest.held _⟩
      | none | value v | body held enter => exact Operation.tidy_stopping _ _
    · exact Operation.tidy_unhandled kind fun _ => Operation.tidy_stopping _ _

/-- The bridge around a tidy process is tidy. -/
theorem Process.Tidy.bridge {p : Process} (hp : p.Tidy) : p.bridge.Tidy := by
  show (p.awaited .null).Tidy (tokens p.held)
  rw [Process.awaited_eq]
  exact (hp.advance .null).awaited

end Effects
