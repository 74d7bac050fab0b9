import Mathlib.Algebra.BigOperators.Group.List.Basic
import Mathlib.Logic.Relation
import Effects.Proofs.Ownership
import Effects.Proofs.Propagation

/-!
# The life of a capture scope

The token of a scope is open from the moment at which it is minted until the scope completes, fails,
is left by its escape or is dropped. A `Pool` holds all that is alive: processes at rest, payloads
of commands that they have yielded, operations that rest. Whoever has the pool may advance, drop and
poll its members in any order, and build new ones out of them. Since all code is tidy, the books are
kept: the open scopes are those that are claimed by a member of the pool, each of them once.
-/

namespace Effects

/-! ## Keeping the books -/

/-- The open scopes of a world are those with the given tokens. Each of these is given once, and has
been minted already. -/
structure World.Accounts (w : World) (owned : Multiset Token) : Prop where
  openScopes : ↑w.openScopes = owned
  nodup : owned.Nodup
  minted : ∀ token ∈ owned, token.serial < w.nextSerial

namespace World

theorem coe_openScopes_release (w : World) (claims : List Claim) :
    ((w.release claims).openScopes : Multiset Token) = ↑w.openScopes - tokens claims := by
  induction claims generalizing w with
  | nil => exact (tsub_zero _).symm
  | cons claim claims ih =>
    have hlater := ih (w.releaseOne claim)
    cases claim with
    | scope token =>
      rw [tokens_scope, Multiset.sub_cons]
      exact hlater
    | receiver channel =>
      have hsame : (w.releaseOne (.receiver channel)).openScopes = w.openScopes := by
        simp only [releaseOne]
        split <;> rfl
      rw [hsame] at hlater
      exact hlater

namespace Accounts

variable {w : World} {owned others : Multiset Token}

theorem release {claims : List Claim} (h : w.Accounts (owned + others))
    (hclaims : tokens claims ≤ owned) :
    (w.release claims).Accounts (owned - tokens claims + others) := by
  have hleft : owned - tokens claims + others ≤ owned + others :=
    Multiset.add_le_add_right (Multiset.sub_le_self _ _)
  refine ⟨?_, Multiset.nodup_of_le hleft h.nodup, fun token htoken => ?_⟩
  · rw [coe_openScopes_release, h.openScopes, tsub_add_eq_add_tsub hclaims]
  · rw [nextSerial_release]
    exact h.minted token (Multiset.mem_of_le hleft htoken)

theorem mint (h : w.Accounts owned) : (w.perform .mint).2.Accounts (⟨w.nextSerial⟩ ::ₘ owned) := by
  have hfresh : (⟨w.nextSerial⟩ : Token) ∉ owned := fun hmem =>
    Nat.lt_irrefl _ (h.minted _ hmem)
  refine ⟨?_, Multiset.nodup_cons.mpr ⟨hfresh, h.nodup⟩, fun token htoken => ?_⟩
  · rw [← h.openScopes]
    rfl
  · rcases Multiset.mem_cons.mp htoken with rfl | hmem
    · exact Nat.lt_succ_self _
    · exact Nat.lt_succ_of_lt (h.minted token hmem)

/-- Only these two acts have to do with scopes. -/
theorem of_scopes_eq {w' : World} (h : w.Accounts owned) (hopen : w'.openScopes = w.openScopes)
    (hserial : w'.nextSerial = w.nextSerial) : w'.Accounts owned :=
  ⟨hopen ▸ h.openScopes, h.nodup, hserial ▸ h.minted⟩

theorem perform {a : Act} (h : w.Accounts (owned + others)) (hallowed : a.Allowed owned) :
    (w.perform a).2.Accounts (a.leaves (w.perform a).1 owned + others) := by
  cases a with
  | mint =>
    show (w.perform .mint).2.Accounts (⟨w.nextSerial⟩ ::ₘ owned + others)
    rw [Multiset.cons_add]
    exact h.mint
  | release claims => exact h.release hallowed
  | attempt store request =>
    refine h.of_scopes_eq ?_ ?_ <;>
      · simp only [World.perform]
        split <;> rfl
  | _ => exact h.of_scopes_eq rfl rfl

end Accounts

end World

/-! ## What is alive -/

/-- Something that is alive, and can hold claims. -/
inductive Thing where
  /-- A process at rest. -/
  | process (p : Process)
  /-- The payload of a command that has been yielded: an operation, a body, or none of these. -/
  | payload (x : Payload)
  /-- An operation that rests. -/
  | operation (r : Resting)

namespace Thing

/-- The claims that are given up when it is dropped. -/
def held : Thing → List Claim
  | process p => p.held
  | payload x => x.held
  | operation r => r.held

/-- Its code is tidy. -/
def Tidy : Thing → Prop
  | process p => p.Tidy
  | payload x => x.Tidy
  | operation (.asleep _ _ held next) => next.Tidy (tokens held)
  | operation (.listening _ _ held next) => ∀ outcome, (next outcome).Tidy (tokens held)

end Thing

/-- The tokens that are owned by some things. -/
def owned (things : List Thing) : Multiset Token := (things.map fun thing => tokens thing.held).sum

@[simp]
theorem owned_nil : owned [] = 0 := rfl

@[simp]
theorem owned_cons (thing : Thing) (things : List Thing) :
    owned (thing :: things) = tokens thing.held + owned things := rfl

@[simp]
theorem owned_append (things more : List Thing) :
    owned (things ++ more) = owned things + owned more := by
  simp [owned]

theorem owned_perm {things things' : List Thing} (h : things.Perm things') :
    owned things = owned things' :=
  (h.map _).sum_eq

/-- Something that is alive claims the scope of a token. -/
def Claimed (token : Token) (things : List Thing) : Prop :=
  ∃ thing ∈ things, .scope token ∈ thing.held

theorem mem_owned {token : Token} {things : List Thing} :
    token ∈ owned things ↔ Claimed token things := by
  induction things with
  | nil => simp [Claimed]
  | cons thing things ih => simp [Claimed, ih]

/-- What is alive after an advance. -/
def Step.things : Step → List Thing
  | suspended command rest => [.process rest, .payload command.payload]
  | completed _ rest => [.process rest]
  | failed _ rest => [.process rest]

/-- What is alive after an operation has been followed. -/
def Progress.things : Progress → List Thing
  | ended _ => []
  | resting r => [.operation r]

/-! ## The books of code that runs -/

section

variable {o others : Multiset Token}

theorem World.Accounts.settle {r : Run} {w : World} (h : w.Accounts (o + others)) (hr : r.Tidy o) :
    (∀ thing ∈ (w.settle r).1.things, thing.Tidy) ∧
      (w.settle r).2.Accounts (owned (w.settle r).1.things + others) := by
  induction r using Run.induct generalizing w o with
  | act a next ih => exact ih _ (h.perform hr.1) (hr.2 _)
  | suspended kind payload rest =>
    obtain ⟨rfl, hpayload, hrest⟩ := hr
    refine ⟨by simpa [Step.things, Thing.Tidy] using ⟨hrest, hpayload⟩, ?_⟩
    simpa [Step.things, Thing.held, add_comm] using h
  | completed v rest | failed failure rest =>
    obtain ⟨rfl, hrest⟩ := hr
    exact ⟨by simpa [Step.things, Thing.Tidy] using hrest,
      by simpa [Step.things, Thing.held] using h⟩

theorem World.Accounts.carryOut {α : Type} {made : α → Multiset Token → Prop} {plan : Plan α}
    {w : World} (h : w.Accounts (o + others)) (hplan : plan.Tidy made o) :
    ∃ left, made (w.carryOut plan).1 left ∧ (w.carryOut plan).2.Accounts (left + others) := by
  induction plan generalizing w o with
  | done a => exact ⟨o, hplan, h⟩
  | act a next ih => exact ih _ (h.perform hplan.1) (hplan.2 _)

/-- An operation that comes to rest holds all that it has owned. -/
theorem Machine.accounts_resting {m : Machine} {r : Resting}
    (h : m.world.Accounts (tokens r.held + others)) (hr : (Thing.operation r).Tidy) :
    (∀ thing ∈ (Progress.resting r).things, thing.Tidy) ∧
      m.world.Accounts (owned (Progress.resting r).things + others) := by
  refine ⟨by simpa [Progress.things] using hr, ?_⟩
  rw [Progress.things, owned_cons, owned_nil, add_zero]
  exact h

theorem Machine.accounts_follow (who : Party) {op : Operation} {m : Machine}
    (h : m.world.Accounts (o + others)) (hop : op.Tidy o) :
    (∀ thing ∈ (m.follow who op).1.things, thing.Tidy) ∧
      (m.follow who op).2.world.Accounts (owned (m.follow who op).1.things + others) := by
  induction op generalizing m o with
  | settled outcome =>
    obtain rfl : o = 0 := hop
    exact ⟨by simp [follow, Progress.things], h⟩
  | act a next ih => exact ih _ (h.perform hop.1) (hop.2 _)
  | sleep ms held next ih =>
    obtain ⟨rfl, hnext⟩ := hop
    rw [follow]
    split
    · exact accounts_resting ((m.world_postpone who).symm ▸ h) hnext
    · split
      · exact ih h hnext
      · exact accounts_resting h hnext
  | receive channel held next ih =>
    obtain ⟨rfl, hnext⟩ := hop
    rw [follow]
    split
    · exact accounts_resting ((m.world_postpone who).symm ▸ h) hnext
    · split
      · exact ih _ h (hnext _)
      · exact accounts_resting h hnext

theorem Machine.accounts_resume (who : Party) {r : Resting} {m : Machine}
    (h : m.world.Accounts (tokens r.held + others)) (hr : (Thing.operation r).Tidy) :
    (∀ thing ∈ (m.resume who r).1.things, thing.Tidy) ∧
      (m.resume who r).2.world.Accounts (owned (m.resume who r).1.things + others) := by
  rw [resume.eq_def]
  split
  · exact accounts_resting ((m.world_postpone who).symm ▸ h) hr
  · cases r with
    | asleep deadline ticket held next =>
      simp only
      split
      · exact accounts_follow who h hr
      · cases ticket <;> exact accounts_resting h hr
    | listening channel noticed held next =>
      simp only
      split
      · exact accounts_follow who h (hr _)
      · exact accounts_resting h hr

end

/-! ## Closed for good -/

/-- The token has been minted, and its scope is closed. -/
def World.Closed (w : World) (token : Token) : Prop :=
  token.serial < w.nextSerial ∧ token ∉ w.openScopes

namespace World.Closed

variable {w : World} {token : Token}

theorem isOpen (h : w.Closed token) : w.isOpen token = false := by
  simpa [World.isOpen] using h.2

theorem release (h : w.Closed token) (claims : List Claim) : (w.release claims).Closed token := by
  refine ⟨(nextSerial_release w claims).symm ▸ h.1, fun hmem => h.2 ?_⟩
  have hleft : token ∈ (↑w.openScopes : Multiset Token) - tokens claims := by
    rw [← coe_openScopes_release]
    exact hmem
  exact Multiset.mem_of_le (Multiset.sub_le_self _ _) hleft

/-- No act opens a scope but the one that mints its token. -/
theorem perform (h : w.Closed token) (a : Act) : (w.perform a).2.Closed token := by
  cases a with
  | mint =>
    refine ⟨Nat.lt_succ_of_lt h.1, fun hmem => ?_⟩
    rcases List.mem_cons.mp hmem with rfl | hold
    · exact Nat.lt_irrefl _ h.1
    · exact h.2 hold
  | release claims => exact h.release claims
  | attempt store request =>
    simp only [World.perform]
    split <;> exact h
  | _ => exact h

theorem settle (h : w.Closed token) (r : Run) : (w.settle r).2.Closed token := by
  induction r using Run.induct generalizing w with
  | act a next ih => exact ih _ (h.perform a)
  | suspended | completed | failed => exact h

theorem carryOut {α : Type} (h : w.Closed token) (plan : Plan α) :
    (w.carryOut plan).2.Closed token := by
  induction plan generalizing w with
  | done a => exact h
  | act a next ih => exact ih _ (h.perform a)

end World.Closed

namespace Machine

variable {m : Machine} {token : Token}

theorem closed_follow (who : Party) (op : Operation) (h : m.world.Closed token) :
    (m.follow who op).2.world.Closed token := by
  induction op generalizing m with
  | settled outcome => exact h
  | act a next ih => exact ih _ (h.perform a)
  | sleep ms held next ih =>
    rw [follow]
    split
    · exact (m.world_postpone who).symm ▸ h
    · split
      · exact ih h
      · exact h
  | receive channel held next ih =>
    rw [follow]
    split
    · exact (m.world_postpone who).symm ▸ h
    · split
      · exact ih _ h
      · exact h

theorem closed_resume (who : Party) (r : Resting) (h : m.world.Closed token) :
    (m.resume who r).2.world.Closed token := by
  rw [resume.eq_def]
  split
  · exact (m.world_postpone who).symm ▸ h
  · cases r with
    | asleep deadline ticket held next =>
      simp only
      split
      · exact closed_follow who next h
      · cases ticket <;> exact h
    | listening channel noticed held next =>
      simp only
      split
      · exact closed_follow who _ h
      · exact h

end Machine

/-! ## Pools -/

/-- All that is alive, with the world. -/
structure Pool where
  world : World
  things : List Thing

/-- What can happen to a pool. -/
inductive Pool.Move : Pool → Pool → Prop where
  /-- Code makes a new thing out of things that are alive; it gives up only what it owns. -/
  | made {w : World} {parts things : List Thing} {plan : Plan Thing}
    (hplan : plan.Tidy (fun thing left => thing.Tidy ∧ tokens thing.held = left) (owned parts)) :
    Move ⟨w, parts ++ things⟩ ⟨(w.carryOut plan).2, (w.carryOut plan).1 :: things⟩
  /-- A process is advanced. -/
  | advanced (w : World) (p : Process) (v : Value) (things : List Thing) :
    Move ⟨w, .process p :: things⟩
      ⟨(w.settle (p.advance v)).2, (w.settle (p.advance v)).1.things ++ things⟩
  | dropped (w : World) (thing : Thing) (things : List Thing) :
    Move ⟨w, thing :: things⟩ ⟨w.release thing.held, things⟩
  /-- An operation is started in a turn of some party. -/
  | started (m : Machine) (who : Party) (pending : Pending) (things : List Thing) :
    Move ⟨m.world, .payload (.future pending) :: things⟩
      ⟨(m.follow who pending.start).2.world, (m.follow who pending.start).1.things ++ things⟩
  /-- An operation that rests is polled. -/
  | polled (m : Machine) (who : Party) (r : Resting) (things : List Thing) :
    Move ⟨m.world, .operation r :: things⟩
      ⟨(m.resume who r).2.world, (m.resume who r).1.things ++ things⟩
  | reordered (w : World) {things things' : List Thing} (h : things.Perm things') :
    Move ⟨w, things⟩ ⟨w, things'⟩
  /-- Whatever else happens in the world: outcomes are sent, stores change, events are reported. -/
  | elsewhere {w w' : World} (things : List Thing) (hopen : w'.openScopes = w.openScopes)
    (hserial : w'.nextSerial = w.nextSerial) : Move ⟨w, things⟩ ⟨w', things⟩

/-- The pools that come from an empty pool, in a world in which no scope is open. -/
def Pool.Reachable (pool : Pool) : Prop :=
  ∃ w : World, w.openScopes = [] ∧ Relation.ReflTransGen Pool.Move ⟨w, []⟩ pool

/-- The books of a pool are in order, and all its code is tidy. -/
structure Pool.Sound (pool : Pool) : Prop where
  accounts : pool.world.Accounts (owned pool.things)
  tidy : ∀ thing ∈ pool.things, thing.Tidy

namespace Pool

/-- A member of the pool is replaced by what has become of it. -/
theorem Sound.replace {w w' : World} {thing : Thing} {news things : List Thing}
    (h : Sound ⟨w, thing :: things⟩)
    (hrun : thing.Tidy → w.Accounts (tokens thing.held + owned things) →
      (∀ new ∈ news, new.Tidy) ∧ w'.Accounts (owned news + owned things)) :
    Sound ⟨w', news ++ things⟩ := by
  obtain ⟨hnews, haccounts⟩ := hrun (h.tidy thing List.mem_cons_self) h.accounts
  refine ⟨?_, fun new hnew => ?_⟩
  · rw [owned_append]
    exact haccounts
  · rcases List.mem_append.mp hnew with hnew | hold
    · exact hnews new hnew
    · exact h.tidy new (List.mem_cons_of_mem _ hold)

theorem Sound.move {pool pool' : Pool} (h : pool.Sound) (hmove : pool.Move pool') :
    pool'.Sound := by
  cases hmove with
  | @made w parts things plan hplan =>
    have haccounts := h.accounts
    rw [owned_append] at haccounts
    obtain ⟨left, ⟨hthing, rfl⟩, hleft⟩ := haccounts.carryOut hplan
    refine ⟨hleft, fun thing hmem => ?_⟩
    rcases List.mem_cons.mp hmem with rfl | hold
    · exact hthing
    · exact h.tidy thing (List.mem_append_right _ hold)
  | advanced w p v things =>
    exact h.replace fun hp haccounts => haccounts.settle (Process.Tidy.advance hp v)
  | dropped w thing things =>
    have hdropped : (w.release thing.held).Accounts
        (tokens thing.held - tokens thing.held + owned things) := h.accounts.release le_rfl
    rw [tsub_self, zero_add] at hdropped
    exact ⟨hdropped, fun new hnew => h.tidy new (List.mem_cons_of_mem _ hnew)⟩
  | started m who pending things =>
    exact h.replace fun hpending haccounts => Machine.accounts_follow who haccounts hpending
  | polled m who r things =>
    exact h.replace fun hr haccounts => Machine.accounts_resume who haccounts hr
  | reordered w hperm =>
    exact ⟨owned_perm hperm ▸ h.accounts, fun thing hmem => h.tidy thing (hperm.mem_iff.mpr hmem)⟩
  | elsewhere things hopen hserial => exact ⟨h.accounts.of_scopes_eq hopen hserial, h.tidy⟩

theorem closed_move {pool pool' : Pool} {token : Token} (h : pool.world.Closed token)
    (hmove : pool.Move pool') : pool'.world.Closed token := by
  cases hmove with
  | made hplan => exact h.carryOut _
  | advanced w p v things => exact h.settle _
  | dropped w thing things => exact h.release _
  | started m who pending things => exact Machine.closed_follow who _ h
  | polled m who r things => exact Machine.closed_resume who r h
  | reordered => exact h
  | elsewhere things hopen hserial => exact ⟨hserial ▸ h.1, hopen ▸ h.2⟩

theorem Reachable.sound {pool : Pool} (h : pool.Reachable) : pool.Sound := by
  obtain ⟨w, hempty, hmoves⟩ := h
  induction hmoves with
  | refl => exact ⟨⟨by rw [hempty]; rfl, by simp, by simp⟩, by simp⟩
  | tail _ hmove ih => exact ih.move hmove

theorem closed_moves {pool pool' : Pool} {token : Token} (h : pool.world.Closed token)
    (hmoves : Relation.ReflTransGen Move pool pool') : pool'.world.Closed token := by
  induction hmoves with
  | refl => exact h
  | tail _ hmove ih => exact closed_move ih hmove

theorem Reachable.move {pool pool' : Pool} (h : pool.Reachable) (hmove : pool.Move pool') :
    pool'.Reachable := by
  obtain ⟨w, hempty, hmoves⟩ := h
  exact ⟨w, hempty, hmoves.tail hmove⟩

/-- The open scopes are those that are claimed. -/
theorem Sound.isOpen_iff {pool : Pool} (h : pool.Sound) (token : Token) :
    pool.world.isOpen token = true ↔ Claimed token pool.things := by
  rw [← mem_owned, ← h.accounts.openScopes, World.isOpen, List.contains_iff_mem, Multiset.mem_coe]

end Pool

/-! ## In the middle of an advance -/

/-- What code owns is settled by the code: it gives up what it owns, and hands on the rest. -/
theorem Run.Tidy.unique {r : Run} {o o' : Multiset Token} (h : r.Tidy o) (h' : r.Tidy o') :
    o = o' := by
  induction r using Run.induct generalizing o o' with
  | act a next ih =>
    -- any answer will do
    have hleft := ih (World.perform {} a).1 (h.2 _) (h'.2 _)
    cases a with
    | mint => exact (Multiset.cons_inj_right _).mp hleft
    | release claims => exact (tsub_left_inj h.1 h'.1).mp hleft
    | _ => exact hleft
  | suspended | completed | failed => exact h.1.symm.trans h'.1

/-- The code of the frame keeps its books, and so does that of the frames it can turn into. -/
def Frame.KeepsBooks (frame : Frame) : Prop := ∃ family, Frame.Tidying family ∧ family frame

/-- The tokens that the frames of a context own. -/
def Context.owned (context : Context) : Multiset Token := (context.map Frame.owned).sum

theorem Context.tokens_process (context : Context) (p : Process) :
    tokens (process context p).held = tokens p.held + owned context := by
  induction context with
  | nil => exact (add_zero _).symm
  | cons frame context ih =>
    show tokens (frame.process (process context p)).held =
      tokens p.held + (frame.owned + owned context)
    rw [frame.tokens_process, ih, add_assoc, add_comm (owned context)]

theorem Run.Tidy.context {context : Context} (hcontext : ∀ frame ∈ context, frame.KeepsBooks)
    {r : Run} {o : Multiset Token} (h : r.Tidy o) : (context.run r).Tidy (o + context.owned) := by
  induction context with
  | nil => exact (add_zero o).symm ▸ h
  | cons frame context ih =>
    obtain ⟨family, htidying, hframe⟩ := hcontext frame List.mem_cons_self
    have hinside := ih fun f hf => hcontext f (List.mem_cons_of_mem _ hf)
    have howned : o + Context.owned (frame :: context) =
        o + Context.owned context + frame.owned := by
      rw [add_assoc, add_comm (Context.owned context)]
      rfl
    rw [howned]
    exact hinside.frame htidying hframe

/-- The books are in order while the run is under way, and `others` is owned elsewhere. -/
def World.InOrder (w : World) (others : Multiset Token) (r : Run) : Prop :=
  ∃ o, r.Tidy o ∧ w.Accounts (o + others)

namespace World.InOrder

variable {w : World} {others : Multiset Token} {context : Context}

theorem act {a : Act} {next : a.Answer → Run}
    (h : w.InOrder others (Context.run context (.act a next))) :
    (w.perform a).2.InOrder others (Context.run context (next (w.perform a).1)) := by
  rw [Context.run_act] at h
  obtain ⟨o, hr, hw⟩ := h
  exact ⟨_, hr.2 _, hw.perform hr.1⟩

theorem releasing {claims : List Claim} {next : Unit → Run}
    (h : w.InOrder others (Context.run context (.releasing claims next))) :
    (w.release claims).InOrder others (Context.run context (next ())) := by
  cases claims with
  | nil => exact h
  | cons claim claims => exact h.act

theorem ofPlan {α : Type} {plan : Plan α} {next : α → Run}
    (h : w.InOrder others (Context.run context (.ofPlan plan next))) :
    (w.carryOut plan).2.InOrder others (Context.run context (next (w.carryOut plan).1)) := by
  induction plan generalizing w with
  | done a => exact h
  | act a rest ih => exact ih _ h.act

/-- What is inside of a frame settles, and the frame goes on with its end. -/
theorem settle (frame : Frame) {r : Run} {step : Step} {w₁ : World}
    (hr : w.settle r = (step, w₁))
    (h : w.InOrder others (Context.run context (frame.run r))) :
    w₁.InOrder others (Context.run context (frame.run step.run)) := by
  induction r using Run.induct generalizing w with
  | act a next ih =>
    rw [Frame.run_act] at h
    exact ih _ hr h.act
  | suspended | completed | failed =>
    cases hr
    exact h

/-- A state layer answers a command. -/
theorem answered {σ : Type} {l : Threaded σ} {state : σ} {payload : Payload} {rest : Process}
    (h : w.InOrder others
      (Context.run context ((Run.suspended l.kind payload rest).threadedBy l state))) :
    let answer := (w.reported [l.update]).carryOut (l.answer state payload)
    answer.2.InOrder others (Context.run context (match answer.1 with
      | (.ok v, state) => (rest.threadedBy l state).advance v
      | (.error failure, state) => .failed failure (rest.threadedBy l state))) := by
  rw [Run.threadedBy_self] at h
  exact h.act.ofPlan

end World.InOrder

/-- When an advance comes to a piece of code, the books are in order at that moment. -/
theorem World.Reaches.inOrder {w w' : World} {r focus : Run} {context : Context}
    (h : Reaches w r w' context focus) (outer : Context) {others : Multiset Token}
    (hr : w.InOrder others (Context.run outer r)) :
    w'.InOrder others (Context.run (outer ++ context) focus) := by
  induction h generalizing outer with
  | here w r => exact (List.append_nil outer).symm ▸ hr
  | inside frame _ ih =>
    rw [List.append_cons]
    exact ih (outer ++ [frame]) ((Context.run_append outer [frame] _).symm ▸ hr)
  | @stacked layers frames hlayers w w' p v focus context _ ih =>
    rw [Stack.advance_interpret hlayers, ← Context.run_append] at hr
    rw [← List.append_assoc]
    exact ih (outer ++ frames) hr
  | acting _ ih => exact ih outer hr.act
  | @second w w₁ w₂ w' r focus v rest p owned next context hfirst hbuild _ ih =>
    have hbuilding : w₁.InOrder others (Context.run outer (.ofPlan (next v) fun p =>
      .releasing rest.held fun _ => p.start.dropAtEnd)) :=
        World.InOrder.settle (.first owned next) hfirst hr
    have hbuilt := hbuilding.ofPlan
    rw [hbuild] at hbuilt
    rw [List.append_cons]
    exact ih (outer ++ [.second]) ((Context.run_append outer [.second] _).symm ▸ hbuilt.releasing)
  | @looping w w₁ w' r focus v rest owned next context hstep _ ih =>
    have hgoes : w₁.InOrder others (Context.run outer (.releasing rest.held fun _ => next v)) :=
      World.InOrder.settle (.looping owned next) hstep hr
    exact ih outer hgoes.releasing
  | @dispatched w w₁ w' r focus g payload rest context hinside _ ih =>
    have hasked : w₁.InOrder others
        (Context.run outer ((Run.suspended g.kind payload rest).handledBy g)) :=
      World.InOrder.settle (.handled g) hinside hr
    rw [Run.handledBy_self] at hasked
    exact ih outer hasked.act
  | @served w w₁ w' r focus kind v rest inner context hserving _ ih =>
    have hgoes : w₁.InOrder others
        (Context.run outer (.releasing rest.held fun _ => inner.advance v)) :=
      World.InOrder.settle (.serving kind inner) hserving hr
    exact ih outer hgoes.releasing
  | @answered σ l state state' w w₁ w₂ w' r focus payload rest v context hinside hanswer _ ih =>
    have hanswered := (World.InOrder.settle (.threaded l state) hinside hr).answered
    rw [hanswer] at hanswered
    exact ih outer hanswered
  | @refused σ l state state' w w₁ w₂ r payload rest failure hinside hanswer =>
    have hanswered := (World.InOrder.settle (.threaded l state) hinside hr).answered
    rw [hanswer] at hanswered
    exact (List.append_nil outer).symm ▸ hanswered

/-! ## Scopes that end -/

theorem tokens_within (token : Token) (p : Process) :
    tokens (p.within token).held = token ::ₘ tokens p.held := by
  cases p <;> rfl

/-- What has been owned or minted since, and is not among what the others own, is closed. -/
theorem World.Accounts.closed {w w₁ : World} {o others : Multiset Token}
    (h : w.Accounts (o + others)) (hafter : w₁.Accounts others)
    (hserial : w.nextSerial ≤ w₁.nextSerial) {token : Token}
    (htoken : token ∈ o ∨ w.nextSerial ≤ token.serial ∧ token.serial < w₁.nextSerial) :
    w₁.Closed token := by
  have hothers : token ∈ w₁.openScopes → token ∈ others := fun hmem => by
    rw [← hafter.openScopes]
    exact hmem
  rcases htoken with hold | ⟨hnew, hminted⟩
  · refine ⟨Nat.lt_of_lt_of_le (h.minted token (Multiset.mem_add.mpr (.inl hold))) hserial, ?_⟩
    have hdisjoint := (Multiset.nodup_add.mp h.nodup).2.2
    exact fun hmem => Multiset.disjoint_left.mp hdisjoint hold (hothers hmem)
  · refine ⟨hminted, fun hmem => ?_⟩
    have hearlier := h.minted token (Multiset.mem_add.mpr (.inr (hothers hmem)))
    exact Nat.lt_irrefl _ (Nat.lt_of_lt_of_le hearlier hnew)

/-- The body of a scope goes on in the world `w`, and the advance of which this is a part ends in
the world `w'`. Either the body pauses inside its scope, which stays open, or nothing is left of the
scope. Then it is closed by the end of the advance, and so is every scope that the body has owned or
made on the way. -/
def ScopeKept (token : Token) (owned : Multiset Token) (w : World) (body : Run) (w' : World) :
    Prop :=
  match w.settle (body.within token) with
  | (.suspended _ rest, w₁) => (∃ body : Process, rest = body.within token) ∧ w₁.isOpen token = true
  | (.completed _ rest, w₁) | (.failed _ rest, w₁) =>
    rest = .spent [] ∧ ∀ other : Token, other ∈ token ::ₘ owned ∨
      w.nextSerial ≤ other.serial ∧ other.serial < w₁.nextSerial → w'.isOpen other = false

theorem World.Reaches.scopeKept {w w' : World} {r body : Run} {context : Context} {token : Token}
    {o others : Multiset Token} (h : Reaches w r w' context (body.within token))
    (hbody : body.Tidy o) (hw : w'.Accounts (token ::ₘ o + others)) :
    ScopeKept token o w' body (w.settle r).2 := by
  obtain ⟨-, hafter⟩ := hw.settle (hbody.within token)
  have hserial := w'.nextSerial_le_settle (body.within token)
  have hend := settle_within token w' body
  have hlater := h.settle_eq
  rw [Context.settle_run] at hlater
  rw [ScopeKept, hlater]
  generalize w'.settle (body.within token) = ending at *
  obtain ⟨step, w₁⟩ := ending
  -- at an end of the scope only the others own anything
  have hclosed (hothers : w₁.Accounts others) (other : Token) (hother : other ∈ token ::ₘ o ∨
      w'.nextSerial ≤ other.serial ∧ other.serial < w₁.nextSerial) :
      (w₁.settle (context.run step.run)).2.isOpen other = false :=
    ((hw.closed hothers hserial hother).settle _).isOpen
  cases hend with
  | completed | failed =>
    have hothers : w₁.Accounts others := by
      simpa [Step.things, Thing.held, Process.held] using hafter
    exact ⟨rfl, hclosed hothers⟩
  | suspended command body' =>
    have hmem : token ∈
        owned [.process (body'.within token), .payload command.payload] + others := by
      simp [Thing.held, tokens_within]
    refine ⟨⟨body', rfl⟩, ?_⟩
    rw [World.isOpen, List.contains_iff_mem, ← Multiset.mem_coe, hafter.openScopes]
    exact hmem

/-! ## Escapes that come out -/

/-- What is alive of the loop of a bridge. -/
def Loop.things : Loop → List Thing
  | fresh p => [.process p]
  | waiting _ r rest => [.operation r, .process rest]
  | ended _ => []

namespace Pool.Reachable

/-- Wherever a poll of a bridge comes to an advance, the pool could have come as well. -/
theorem reaches {who : Party} {m m' : Machine} {loop : Loop} {things : List Thing} {r : Run}
    (hreaches : Loop.Reaches who m loop m' r) (h : Reachable ⟨m.world, loop.things ++ things⟩) :
    ∃ (p : Process) (v : Value), r = p.advance v ∧ Reachable ⟨m'.world, .process p :: things⟩ := by
  induction hreaches with
  | start p => exact ⟨p, .null, rfl, h⟩
  | @resumed m₁ n r rest v hended =>
    have hpolled := h.move (.polled m who r (.process rest :: things))
    rw [hended] at hpolled
    exact ⟨rest, v, rfl, hpolled⟩
  | @again m₁ m₂ loop r pending rest w v _ hyield hended ih =>
    obtain ⟨p, input, rfl, hp⟩ := ih h
    have hadvanced := hp.move (.advanced m₁.world p input things)
    rw [hyield] at hadvanced
    have hpending := hadvanced.move (.reordered w (.swap ..))
    let m₃ := (({ m₁ with world := w } : Machine).during
      (Plan.report .debug "awaiting pending operation" [])).2
    have hreported : Reachable ⟨m₃.world, .payload (.future pending) :: .process rest :: things⟩ :=
      hpending.move (.elsewhere _ rfl rfl)
    have hstarted := hreported.move (.started m₃ who pending (.process rest :: things))
    rw [hended] at hstarted
    exact ⟨rest, v, rfl, hstarted⟩

theorem isOpen_after {w w₁ : World} {p : Process} {v : Value} {things : List Thing}
    (h : Reachable ⟨w, .process p :: things⟩) {command : Command} {rest : Process}
    (hyield : w.settle (p.advance v) = (.suspended command rest, w₁)) (token : Token) :
    w₁.isOpen token = true ↔
      Claimed token (.process rest :: .payload command.payload :: things) := by
  have hadvanced := h.move (.advanced w p v things)
  rw [hyield] at hadvanced
  exact hadvanced.sound.isOpen_iff token

end Pool.Reachable

/-- The outcome reports that the escape with a token has come out, and says whether something that
is alive claims the scope. -/
def LeakReported (token : Token) (alive : List Thing) (outcome : Outcome) : Prop :=
  ∃ isOpen : Bool, outcome = .error (.escapeLeak token.shown (scopeState isOpen)) ∧
    (isOpen = true ↔ Claimed token alive)

/-- The bridge ends with the failure of a command that it cannot answer. -/
theorem Machine.follow_awaited_escape (who : Party) {m : Machine} {r : Run} {token : Token}
    {payload : Payload} {rest : Process} {w : World}
    (hyield : m.world.settle r = (.suspended ⟨.escape token, payload⟩ rest, w)) :
    (m.follow who r.awaited).1 =
      .ended (.error (.escapeLeak token.shown (scopeState (w.isOpen token)))) := by
  rw [follow_awaited, hyield]
  have hunhandled : (Run.suspended (.escape token) payload rest).awaited =
      .ofPlan (Kind.escape token).unhandled fun failure =>
        .releasing (payload.held ++ rest.held) fun _ => .settled (.error failure) := by
    rw [Run.awaited, if_neg (by simp [Kind.wait])]
  show (Machine.follow _ who (Run.suspended (.escape token) payload rest).awaited).1 = _
  rw [hunhandled, follow_ofPlan, follow_releasing]
  rfl

namespace Pool

variable {pool : Pool} {things : List Thing} {token : Token} {payload : Payload} {rest : Process}
  {w : World}

theorem Reachable.perm (h : pool.Reachable) (hthings : pool.things.Perm things) :
    Reachable ⟨pool.world, things⟩ :=
  h.move (.reordered pool.world hthings)

theorem Reachable.dropped {thing : Thing} (h : Reachable ⟨w, thing :: things⟩)
    (hclaim : .scope token ∈ thing.held) : (w.release thing.held).isOpen token = false := by
  have hbefore : w.Accounts (tokens thing.held + owned things) := h.sound.accounts
  have hafter := (h.move (.dropped w thing things)).sound.accounts
  have hserial := (World.nextSerial_release w thing.held).ge
  exact (hbefore.closed hafter hserial (.inl (mem_tokens.mpr hclaim))).isOpen

theorem Reachable.scopeKept {context : Context} {p : Process} {v : Value}
    (h : Reachable ⟨w, .process (context.process (p.within token)) :: things⟩) (hp : p.Tidy) :
    ScopeKept token (tokens p.held) w (p.advance v)
      (w.settle ((context.process (p.within token)).advance v)).2 := by
  have hbooks : w.Accounts (tokens (context.process (p.within token)).held + owned things) :=
    h.sound.accounts
  rw [Context.tokens_process, tokens_within, add_assoc] at hbooks
  rw [Context.advance_process, Process.advance_within]
  have hreaches := (World.Reaches.here w ((p.advance v).within token)).context context
  exact hreaches.scopeKept (hp.advance v) hbooks

theorem Reachable.scopeKept_of_reaches {context : Context} {p : Process} {v : Value} {w' : World}
    {body : Run} {o : Multiset Token} (h : Reachable ⟨w, .process p :: things⟩)
    (hreaches : World.Reaches w (p.advance v) w' context (body.within token)) (hbody : body.Tidy o)
    (hcontext : ∀ frame ∈ context, frame.KeepsBooks) :
    ScopeKept token o w' body (w.settle (p.advance v)).2 := by
  have hp : p.Tidy := h.sound.tidy _ List.mem_cons_self
  obtain ⟨o', htidy, hbooks⟩ := hreaches.inOrder [] ⟨_, hp.advance v, h.sound.accounts⟩
  -- what is owned at that moment is what the code in the focus and around it owns
  obtain rfl := htidy.unique ((hbody.within token).context hcontext)
  rw [add_assoc] at hbooks
  exact hreaches.scopeKept hbody hbooks

theorem Reachable.leak_of_drive {p : Process} (h : Reachable ⟨w, .process p :: things⟩) {w₁ : World}
    (hyield : w.settle p.start = (.suspended ⟨.escape token, payload⟩ rest, w₁)) :
    LeakReported token (.process rest :: .payload payload :: things) (w.carryOut p.drive).1 := by
  refine ⟨w₁.isOpen token, ?_, h.isOpen_after hyield token⟩
  rw [Process.drive, World.carryOut_drive, hyield]
  rfl

theorem Reachable.leak_of_poll {who : Party} {m m' : Machine} {loop : Loop} {r : Run}
    (h : Reachable ⟨m.world, loop.things ++ things⟩) (hreaches : Loop.Reaches who m loop m' r)
    (hyield : m'.world.settle r = (.suspended ⟨.escape token, payload⟩ rest, w)) :
    ∃ outcome, (loop.task.poll who m).1 = .ended outcome ∧
      LeakReported token (.process rest :: .payload payload :: things) outcome := by
  obtain ⟨p, v, rfl, hp⟩ := h.reaches hreaches
  refine ⟨_, ?_, w.isOpen token, rfl, hp.isOpen_after hyield token⟩
  rw [hreaches.poll_eq]
  exact congrArg Progress.task (Machine.follow_awaited_escape who hyield)

end Pool

/-! ## The life of a scope -/

/-- **The life of a scope.** Take any pool that has come about by building, advancing, polling and
dropping processes in any order. A scope is open exactly if some member of the pool claims it, and
no scope is claimed twice; so each scope is open that lies in a process of the pool at any depth, be
it under way or still to be entered. A scope that is closed is never opened again.

When the body of a scope goes on, at any moment of an advance of a process in the pool, then either
it pauses inside its scope, which stays open, or nothing is left of the scope, and by the end of the
advance the scope is closed with all scopes that the body has owned or made. All that is asked for
is that the code of the body, and of the frames around it at that moment, keeps its books. A scope
that lies in the process before the advance is kept so whatever lies around it. When a member is
dropped, all scopes that it claims are closed, and no other.

The drivers report an escape that comes out to them as a leak, and as one out of an open scope
exactly if something that is alive at that moment claims the scope: what remains of the process, the
payload, or another member of the pool. For the bridge this holds at each advance of the process, in
any poll.

All processes that are put together of the combinators can be in the pool, as they are and inside a
bridge. -/
theorem scope_lifecycle {pool : Pool} (hpool : pool.Reachable) :
    ((∀ token, pool.world.isOpen token = true ↔ Claimed token pool.things) ∧
      (owned pool.things).Nodup ∧
      ∀ (context : Context) (token : Token),
        (∀ p : Process, .process (context.process (p.within token)) ∈ pool.things →
          pool.world.isOpen token = true) ∧
        ∀ held enter, .process (context.process (.scope token held enter)) ∈ pool.things →
          pool.world.isOpen token = true) ∧
    (∀ (token : Token) (pool' : Pool), token.serial < pool.world.nextSerial →
      pool.world.isOpen token = false → Relation.ReflTransGen Pool.Move pool pool' →
      pool'.world.isOpen token = false) ∧
    (∀ (p : Process) (v : Value) (things : List Thing) (w' : World) (body : Run)
        (context : Context) (token : Token) (o : Multiset Token),
      pool.things.Perm (.process p :: things) →
      World.Reaches pool.world (p.advance v) w' context (body.within token) → body.Tidy o →
      (∀ frame ∈ context, frame.KeepsBooks) →
      ScopeKept token o w' body (pool.world.settle (p.advance v)).2) ∧
    (∀ (context : Context) (token : Token) (p : Process) (v : Value) (things : List Thing),
      pool.things.Perm (.process (context.process (p.within token)) :: things) → p.Tidy →
      ScopeKept token (tokens p.held) pool.world (p.advance v)
        (pool.world.settle ((context.process (p.within token)).advance v)).2) ∧
    (∀ (thing : Thing) (things : List Thing), pool.things.Perm (thing :: things) → ∀ token,
      (.scope token ∈ thing.held → (pool.world.release thing.held).isOpen token = false) ∧
      (.scope token ∉ thing.held →
        (pool.world.release thing.held).isOpen token = pool.world.isOpen token)) ∧
    (∀ (p : Process) (things : List Thing) (token : Token) (payload : Payload) (rest : Process)
        (w : World), pool.things.Perm (.process p :: things) →
      pool.world.settle p.start = (.suspended ⟨.escape token, payload⟩ rest, w) →
      LeakReported token (.process rest :: .payload payload :: things)
        (pool.world.carryOut p.drive).1) ∧
    (∀ (who : Party) (m m' : Machine) (loop : Loop) (things : List Thing) (r : Run) (token : Token)
        (payload : Payload) (rest : Process) (w : World), m.world = pool.world →
      pool.things.Perm (loop.things ++ things) → Loop.Reaches who m loop m' r →
      m'.world.settle r = (.suspended ⟨.escape token, payload⟩ rest, w) →
      ∃ outcome, (loop.task.poll who m).1 = .ended outcome ∧
        LeakReported token (.process rest :: .payload payload :: things) outcome) ∧
    ∀ p : Process, Crafted (fun _ _ => False) (fun _ => False) p → p.Tidy ∧ p.bridge.Tidy := by
  have hopen (token : Token) (p : Process) (hclaim : .scope token ∈ p.held)
      (hmem : .process p ∈ pool.things) : pool.world.isOpen token = true :=
    (hpool.sound.isOpen_iff token).mpr ⟨.process p, hmem, hclaim⟩
  have hcontext (context : Context) (token : Token) (p : Process) (hclaim : .scope token ∈ p.held) :
      .scope token ∈ (context.process p).held := by
    rw [← mem_tokens, Context.tokens_process]
    exact Multiset.mem_add.mpr (.inl (mem_tokens.mpr hclaim))
  refine ⟨⟨hpool.sound.isOpen_iff, hpool.sound.accounts.nodup, fun context token =>
      ⟨fun p => hopen token _ (hcontext context token _ ?_),
        fun held enter => hopen token _ (hcontext context token _ List.mem_cons_self)⟩⟩,
    fun token pool' hminted hclosed hmoves => ?_,
    fun _ _ _ _ _ _ _ _ hthings hreaches hbody hcontext =>
      (hpool.perm hthings).scopeKept_of_reaches hreaches hbody hcontext,
    fun _ _ _ _ _ hthings hp => (hpool.perm hthings).scopeKept hp,
    fun thing things hthings token => ⟨(hpool.perm hthings).dropped,
      fun hclaim => World.isOpen_release hclaim _⟩,
    fun _ _ _ _ _ _ hthings hyield => (hpool.perm hthings).leak_of_drive hyield,
    fun who m m' loop things r token payload rest w hm hthings hreaches hyield => ?_,
    fun p hp => ?_⟩
  · rw [← mem_tokens, tokens_within]
    exact Multiset.mem_cons_self _ _
  · have hnot : token ∉ pool.world.openScopes := by simpa [World.isOpen] using hclosed
    exact (Pool.closed_moves ⟨hminted, hnot⟩ hmoves).isOpen
  · have hloop : Pool.Reachable ⟨m.world, loop.things ++ things⟩ := hm ▸ hpool.perm hthings
    exact hloop.leak_of_poll hreaches hyield
  · have htidy := hp.tidy (fun _ _ h => h.elim) fun _ h => h.elim
    exact ⟨htidy, htidy.bridge⟩

/-- A scope is entered, and its body waits for an answer. Somebody else uses its escape: a leak out
of an open scope. Then the scope is dropped where it waits, and the same escape is a leak out of a
closed one. -/
theorem scope_lifecycle_of_drop :
    let leave : Process := Token.exit ⟨1⟩ .null
    let scope : Process := (Process.paused [] .ended).within ⟨1⟩
    let w : World := { nextSerial := 2, openScopes := [⟨1⟩] }
    let pool : Pool := ⟨w, [.process leave, .process scope, .payload .none]⟩
    let pool' : Pool := ⟨w.release scope.held, [.process leave, .payload .none]⟩
    pool.Reachable ∧ pool'.Reachable ∧
      (w.carryOut leave.drive).1 = .error (.escapeLeak "escape#1" "scope open") ∧
      (pool'.world.carryOut leave.drive).1 = .error (.escapeLeak "escape#1" "scope closed") := by
  intro leave scope w pool pool'
  let body (_ : Token) : Run := (Process.perform (.tag "ask") .none).start
  let entered : Plan Thing := (callCC body).bind fun p => .done (.process p)
  let made (thing : Thing) (left : Multiset Token) : Prop := thing.Tidy ∧ tokens thing.held = left
  have hask : (Process.perform (.tag "ask") .none).Tidy :=
    fun _ => ⟨rfl, trivial, fun v => Run.tidy_ended v⟩
  have hentered : entered.Tidy made (owned []) :=
    ⟨trivial, fun token => ⟨fun _ => (hask.advance .null).within token, rfl⟩⟩
  have hleave : (Plan.done (Thing.process leave)).Tidy made (owned []) :=
    ⟨fun _ => ⟨rfl, trivial, fun v => Run.tidy_ended v⟩, rfl⟩
  have hempty : Pool.Reachable ⟨{}, []⟩ := ⟨{}, rfl, .refl⟩
  have hscope : Pool.Reachable ⟨w, [.process (.scope ⟨1⟩ [] body)]⟩ :=
    hempty.move (@Pool.Move.made {} [] [] entered hentered)
  have hwaiting : Pool.Reachable ⟨w, [.process scope, .payload .none]⟩ :=
    hscope.move (.advanced w _ .null [])
  have hpool : pool.Reachable := hwaiting.move (@Pool.Move.made w [] _ _ hleave)
  have hpool' : pool'.Reachable :=
    (hpool.perm (.swap ..)).move (.dropped w (.process scope) [.process leave, .payload .none])
  refine ⟨hpool, hpool', ?_, ?_⟩
  · obtain ⟨-, -, -, -, -, hdrive, -⟩ := scope_lifecycle hpool
    obtain ⟨isOpen, houtcome, hisOpen⟩ := hdrive leave _ ⟨1⟩ _ _ w (.refl _) rfl
    have hclaimed : isOpen = true := hisOpen.mpr ⟨.process scope, by simp, List.mem_cons_self⟩
    rw [hclaimed] at houtcome
    exact houtcome
  · obtain ⟨-, -, -, -, -, hdrive, -⟩ := scope_lifecycle hpool'
    obtain ⟨isOpen, houtcome, hisOpen⟩ := hdrive leave _ ⟨1⟩ _ _ _ (.refl _) rfl
    have hunclaimed : isOpen = false := by
      rw [Bool.eq_false_iff]
      intro htrue
      obtain ⟨thing, hmem, hclaim⟩ := hisOpen.mp htrue
      simp only [List.mem_cons, List.not_mem_nil, or_false] at hmem
      rcases hmem with rfl | rfl | rfl <;> simp [Thing.held, Process.held, Payload.held] at hclaim
    rw [hunclaimed] at houtcome
    exact houtcome

end Effects
