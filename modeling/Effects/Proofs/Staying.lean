import Effects.Proofs.Ownership
import Effects.Proofs.Realm

/-!
# Processes that stay in a realm

A process stays in a realm if its acts do, and if all that it holds and yields belongs to the realm.
The operations and bodies that it yields are its own, and so is the scope that a body is entered
with. Layers do not take a process out of its realm, provided that the handlers stay in it; the
logging layers are not in need of any realm. And the bridge of a process is an operation that stays
where the process stays.
-/

namespace Effects

@[simp]
theorem claimed_nil_subset (realm : Realm) : claimed [] ⊆ realm := by
  rintro r ⟨claim, hclaim, -⟩
  cases hclaim

@[simp]
theorem claimed_append_subset {realm : Realm} {claims more : List Claim} :
    claimed (claims ++ more) ⊆ realm ↔ claimed claims ⊆ realm ∧ claimed more ⊆ realm := by
  constructor
  · exact fun h => ⟨fun r ⟨claim, hclaim, hr⟩ => h ⟨claim, List.mem_append_left _ hclaim, hr⟩,
      fun r ⟨claim, hclaim, hr⟩ => h ⟨claim, List.mem_append_right _ hclaim, hr⟩⟩
  · rintro ⟨h, h'⟩ r ⟨claim, hclaim, hr⟩
    rcases List.mem_append.mp hclaim with hin | hin
    · exact h ⟨claim, hin, hr⟩
    · exact h' ⟨claim, hin, hr⟩

@[simp]
theorem claimed_cons_subset {realm : Realm} {claim : Claim} {claims : List Claim} :
    claimed (claim :: claims) ⊆ realm ↔ .claim claim ∈ realm ∧ claimed claims ⊆ realm := by
  constructor
  · exact fun h => ⟨h ⟨claim, List.mem_cons_self, rfl⟩,
      fun r ⟨other, hother, hr⟩ => h ⟨other, List.mem_cons_of_mem _ hother, hr⟩⟩
  · rintro ⟨h, h'⟩ r ⟨other, hother, rfl⟩
    rcases List.mem_cons.mp hother with rfl | hin
    · exact h
    · exact h' ⟨other, hin, rfl⟩

/-- The scope that a command of the kind leaves. -/
def Kind.touches : Kind → Realm
  | .tag _ => ∅
  | .escape token => {.claim (.scope token)}

mutual

/-- Whatever it is advanced with, the process touches nothing outside the realm, and all that it
holds belongs to the realm. -/
def Process.StaysIn : Process → Realm → Prop
  | .spent held, realm => claimed held ⊆ realm
  | .paused held resume, realm => claimed held ⊆ realm ∧ ∀ v, (resume v).StaysIn realm

/-- The advance touches nothing outside the realm, save what it has got to know on its way, nor do
those after it. -/
def Run.StaysIn : Run → Realm → Prop
  | .act a next, realm =>
    a.touches ⊆ realm ∧ ∀ answer, (next answer).StaysIn (realm ∪ a.gains answer)
  | .suspended kind payload rest, realm =>
    kind.touches ⊆ realm ∧ payload.StaysIn realm ∧ rest.StaysIn realm
  | .completed _ rest, realm => rest.StaysIn realm
  | .failed _ rest, realm => rest.StaysIn realm

/-- The code in the payload touches nothing outside the realm, save the scope that it is entered
with. -/
def Payload.StaysIn : Payload → Realm → Prop
  | .none, _ => True
  | .value _, _ => True
  | .future pending, realm => claimed pending.held ⊆ realm ∧ pending.start.StaysIn realm
  | .body held enter, realm =>
    claimed held ⊆ realm ∧ ∀ token, (enter token).StaysIn (realm ∪ {.claim (.scope token)})

end

theorem Operation.StaysIn.mono {op : Operation} {realm larger : Realm} (h : op.StaysIn realm)
    (hle : realm ⊆ larger) : op.StaysIn larger := by
  induction op generalizing realm larger with
  | settled outcome => trivial
  | act a next ih =>
    exact ⟨h.1.trans hle, fun answer => ih answer (h.2 answer) (Set.union_subset_union_left _ hle)⟩
  | sleep ms held next ih => exact ih h hle
  | receive channel held next ih => exact ⟨hle h.1, fun outcome => ih outcome (h.2 outcome) hle⟩

mutual

theorem Process.StaysIn.mono : ∀ {p : Process} {realm larger : Realm}, p.StaysIn realm →
    realm ⊆ larger → p.StaysIn larger
  | .spent _, _, _, h, hle => h.trans hle
  | .paused _ resume, _, _, h, hle =>
    ⟨h.1.trans hle, fun v => Run.StaysIn.mono (r := resume v) (h.2 v) hle⟩

theorem Run.StaysIn.mono : ∀ {r : Run} {realm larger : Realm}, r.StaysIn realm →
    realm ⊆ larger → r.StaysIn larger
  | .act _ next, _, _, h, hle =>
    ⟨h.1.trans hle, fun answer =>
      Run.StaysIn.mono (r := next answer) (h.2 answer) (Set.union_subset_union_left _ hle)⟩
  | .suspended _ payload rest, _, _, h, hle =>
    have hpayload : payload.StaysIn _ := h.2.1
    ⟨h.1.trans hle, hpayload.mono hle, Process.StaysIn.mono (p := rest) h.2.2 hle⟩
  | .completed _ rest, _, _, h, hle => Process.StaysIn.mono (p := rest) h hle
  | .failed _ rest, _, _, h, hle => Process.StaysIn.mono (p := rest) h hle

theorem Payload.StaysIn.mono : ∀ {payload : Payload} {realm larger : Realm},
    payload.StaysIn realm → realm ⊆ larger → payload.StaysIn larger
  | .none, _, _, _, _ => trivial
  | .value _, _, _, _, _ => trivial
  | .future _, _, _, h, hle => ⟨h.1.trans hle, h.2.mono hle⟩
  | .body _ enter, _, _, h, hle =>
    ⟨h.1.trans hle, fun token =>
      Run.StaysIn.mono (r := enter token) (h.2 token) (Set.union_subset_union_left _ hle)⟩

end

variable {realm : Realm}

theorem Process.StaysIn.held {p : Process} (h : p.StaysIn realm) : claimed p.held ⊆ realm := by
  cases p with
  | spent held => exact h
  | paused held resume => exact h.1

theorem Process.StaysIn.advance {p : Process} (h : p.StaysIn realm) (v : Value) :
    (p.advance v).StaysIn realm := by
  cases p with
  | spent held => exact h
  | paused held resume => exact h.2 v

theorem Payload.StaysIn.held {payload : Payload} (h : payload.StaysIn realm) :
    claimed payload.held ⊆ realm := by
  cases payload with
  | none | value v => exact claimed_nil_subset realm
  | future pending => exact h.1
  | body held enter => exact h.1

namespace Run

theorem staysIn_releasing {claims : List Claim} {next : Unit → Run}
    (hclaims : claimed claims ⊆ realm) (h : (next ()).StaysIn realm) :
    (Run.releasing claims next).StaysIn realm := by
  cases claims with
  | nil => exact h
  | cons claim claims => exact ⟨hclaims, fun _ => h.mono Set.subset_union_left⟩

theorem staysIn_ended (v : Value) : (Run.ended v).StaysIn realm := claimed_nil_subset realm

theorem staysIn_aborted (failure : Failure) : (Run.aborted failure).StaysIn realm :=
  claimed_nil_subset realm

theorem staysIn_aborting {claims : List Claim} (hclaims : claimed claims ⊆ realm)
    (failure : Failure) : (Run.releasing claims fun _ => .aborted failure).StaysIn realm :=
  staysIn_releasing hclaims (staysIn_aborted failure)

theorem staysIn_report (event : Event) {next : Run} (h : next.StaysIn realm) :
    (Run.act (.report event) fun _ => next).StaysIn realm :=
  ⟨Set.empty_subset _, fun _ => h.mono Set.subset_union_left⟩

theorem staysIn_reportingAll {events : List Event} {next : Run} (h : next.StaysIn realm) :
    (Run.reportingAll events next).StaysIn realm := by
  induction events with
  | nil => exact h
  | cons event events ih => exact staysIn_report event ih

end Run

/-! ## Plans -/

/-- The plan touches nothing outside the realm, save what it has got to know on its way, and ends in
the realm that it knows then as `ends` requires of its result. -/
def Plan.StaysIn {α : Type} (ends : α → Realm → Prop) : Plan α → Realm → Prop
  | .done a, realm => ends a realm
  | .act a next, realm =>
    a.touches ⊆ realm ∧ ∀ answer, (next answer).StaysIn ends (realm ∪ a.gains answer)

/-- The plan touches nothing outside the realm, whatever its result is. -/
abbrev Plan.Touches {α : Type} (plan : Plan α) (realm : Realm) : Prop :=
  plan.StaysIn (fun _ _ => True) realm

theorem Plan.StaysIn.mono {α : Type} {ends : α → Realm → Prop} {plan : Plan α} {larger : Realm}
    (hends : ∀ a realm larger, ends a realm → realm ⊆ larger → ends a larger)
    (h : plan.StaysIn ends realm) (hle : realm ⊆ larger) : plan.StaysIn ends larger := by
  induction plan generalizing realm larger with
  | done a => exact hends a realm larger h hle
  | act a next ih =>
    exact ⟨h.1.trans hle, fun answer => ih answer (h.2 answer) (Set.union_subset_union_left _ hle)⟩

theorem Run.staysIn_ofPlan {α : Type} {ends : α → Realm → Prop} {plan : Plan α}
    (hplan : plan.StaysIn ends realm) {next : α → Run}
    (hnext : ∀ a larger, realm ⊆ larger → ends a larger → (next a).StaysIn larger) :
    (Run.ofPlan plan next).StaysIn realm := by
  induction plan generalizing realm with
  | done a => exact hnext a realm subset_rfl hplan
  | act a rest ih =>
    exact ⟨hplan.1, fun answer => ih answer (hplan.2 answer) fun b larger hle =>
      hnext b larger (Set.subset_union_left.trans hle)⟩

/-! ## Frames -/

namespace Frame

/-- The claims that a frame holds itself. -/
def claims : Frame → List Claim
  | first owned _ => owned
  | looping owned _ => owned
  | scope token => [.scope token]
  | serving _ inner => inner.held
  | _ => []

theorem claimed_process {frame : Frame} {p : Process} (hp : claimed p.held ⊆ realm)
    (hframe : claimed frame.claims ⊆ realm) : claimed (frame.process p).held ⊆ realm := by
  cases frame <;> cases p <;>
    simp_all [process, claims, Process.held, Process.andThenHolding, Process.dropAtEnd,
      Process.mapOnce, Process.step, Process.within, Process.handledBy, Process.serving,
      Process.threadedBy]

theorem claimed_abandon {frame : Frame} {rest : Process} (hrest : claimed rest.held ⊆ realm)
    (hframe : claimed frame.claims ⊆ realm) : claimed (frame.abandon rest).1 ⊆ realm := by
  cases frame <;> simp_all [abandon, claims]

/-- What has to be checked of the frames of a family, each of which can turn into another one of the
family while it answers commands, in a realm and in all larger ones: how they go on after a value,
and how they answer their own commands. -/
structure Staying (realm : Realm) (family : Frame → Prop) : Prop where
  claims : ∀ frame, family frame → claimed frame.claims ⊆ realm
  completed : ∀ frame, family frame → ∀ v (rest : Process) larger, realm ⊆ larger →
    rest.StaysIn larger → (∀ g, family g → (g.process rest).StaysIn larger) →
    (frame.run (.completed v rest)).StaysIn larger
  answered : ∀ frame, family frame → ∀ kind (payload : Payload) (rest : Process) larger,
    realm ⊆ larger → ¬ frame.Admits kind → payload.StaysIn larger →
    (∀ held enter, payload = .body held enter → ∀ g, family g → ∀ token,
      (g.run (enter token)).StaysIn (larger ∪ {.claim (.scope token)})) →
    rest.StaysIn larger → (∀ g, family g → (g.process rest).StaysIn larger) →
    (frame.run (.suspended kind payload rest)).StaysIn larger

end Frame

mutual

theorem Process.StaysIn.frame {family : Frame → Prop} (hfamily : Frame.Staying realm family) :
    ∀ {p : Process} {larger : Realm}, realm ⊆ larger → p.StaysIn larger →
      ∀ {frame : Frame}, family frame → (frame.process p).StaysIn larger
  | .spent held, larger, hle, hp, frame, hframe => by
    have hclaims := Frame.claimed_process (p := .spent held) hp
      ((hfamily.claims frame hframe).trans hle)
    by_cases hkeeps : frame.Keeps
    · obtain ⟨claims, hspent⟩ := hkeeps.process_spent held
      rw [hspent] at hclaims ⊢
      exact hclaims
    · obtain ⟨claims, hdropped⟩ := Frame.process_spent_of_not_keeps hkeeps held
      rw [hdropped] at hclaims ⊢
      exact ⟨hclaims, fun _ => Run.staysIn_aborting hclaims _⟩
  | .paused held resume, larger, hle, hp, frame, hframe => by
    have hclaims := Frame.claimed_process (p := .paused held resume) hp.1
      ((hfamily.claims frame hframe).trans hle)
    obtain ⟨claims, hpaused⟩ := frame.process_paused held resume
    rw [hpaused] at hclaims ⊢
    exact ⟨hclaims, fun v => Run.StaysIn.frame hfamily (r := resume v) hle (hp.2 v) hframe⟩

theorem Run.StaysIn.frame {family : Frame → Prop} (hfamily : Frame.Staying realm family) :
    ∀ {r : Run} {larger : Realm}, realm ⊆ larger → r.StaysIn larger →
      ∀ {frame : Frame}, family frame → (frame.run r).StaysIn larger
  | .act a next, larger, hle, hr, frame, hframe => by
    rw [Frame.run_act]
    exact ⟨hr.1, fun answer => Run.StaysIn.frame hfamily (r := next answer)
      (hle.trans Set.subset_union_left) (hr.2 answer) hframe⟩
  | .suspended kind payload rest, larger, hle, ⟨hkind, hpayload, hrest⟩, frame, hframe => by
    have hrests : ∀ g, family g → (g.process rest).StaysIn larger :=
      fun g hg => Process.StaysIn.frame hfamily (p := rest) hle hrest hg
    by_cases hadmits : frame.Admits kind
    · rw [Frame.run_suspended hadmits]
      exact Run.staysIn_reportingAll ⟨hkind, hpayload, hrests frame hframe⟩
    · have hbodies := Payload.StaysIn.frame hfamily payload hle hpayload
      exact hfamily.answered frame hframe kind payload rest larger hle hadmits hpayload
        (fun held enter hbody g hg token => hbodies held enter hbody hg token) hrest hrests
  | .completed v rest, larger, hle, hr, frame, hframe =>
    hfamily.completed frame hframe v rest larger hle hr
      fun g hg => Process.StaysIn.frame hfamily (p := rest) hle hr hg
  | .failed failure rest, larger, hle, hr, frame, hframe => by
    have hprocess := Process.StaysIn.frame hfamily (p := rest) hle hr hframe
    have hleft : (frame.abandon rest).2.StaysIn larger := by
      cases frame <;> first | exact hprocess | exact claimed_nil_subset larger
    rw [Frame.run_failed]
    exact Run.staysIn_releasing (Frame.claimed_abandon (Process.StaysIn.held hr)
      ((hfamily.claims frame hframe).trans hle)) hleft

theorem Payload.StaysIn.frame {family : Frame → Prop} (hfamily : Frame.Staying realm family) :
    ∀ (payload : Payload) {larger : Realm}, realm ⊆ larger → payload.StaysIn larger →
      ∀ held enter, payload = .body held enter → ∀ {frame : Frame}, family frame → ∀ token,
        (frame.run (enter token)).StaysIn (larger ∪ {.claim (.scope token)})
  | .body _ enter, _, hle, hpayload, _, _, rfl, _, hframe, token =>
    Run.StaysIn.frame hfamily (r := enter token) (hle.trans Set.subset_union_left)
      (hpayload.2 token) hframe

end

/-! ## Sequences, scopes and layers -/

namespace Frame

/-- Of frames that answer no command only what they hold and the way in which they go on after a
value is to be checked. -/
theorem Staying.of_admits {frame : Frame} (hadmits : ∀ kind, frame.Admits kind)
    (hclaims : claimed frame.claims ⊆ realm)
    (hcompleted : ∀ v (rest : Process) larger, realm ⊆ larger → rest.StaysIn larger →
      (frame.run (.completed v rest)).StaysIn larger) : Staying realm (· = frame) where
  claims := by
    rintro _ rfl
    exact hclaims
  completed := by
    rintro _ rfl v rest larger hle hrest -
    exact hcompleted v rest larger hle hrest
  answered := by
    rintro _ rfl kind payload rest larger - hnot
    exact (hnot (hadmits kind)).elim

theorem staying_second : Staying realm (· = .second) := by
  refine .of_admits (fun _ => trivial) (claimed_nil_subset realm) fun v rest larger _ hrest => ?_
  show (Run.releasing rest.held fun _ => .ended v).StaysIn larger
  exact Run.staysIn_releasing hrest.held (Run.staysIn_ended v)

theorem staying_first {held : List Claim} {next : Value → Plan Process}
    (hheld : claimed held ⊆ realm) (hnext : ∀ v, (next v).StaysIn Process.StaysIn realm) :
    Staying realm (· = .first held next) := by
  refine .of_admits (fun _ => trivial) hheld fun v rest larger hle hrest => ?_
  show (Run.ofPlan (next v) fun p => .releasing rest.held fun _ => p.start.dropAtEnd).StaysIn larger
  have hbuilds := (hnext v).mono (fun _ _ _ hp hle => hp.mono hle) hle
  refine Run.staysIn_ofPlan hbuilds fun p known hknown hp => ?_
  have hsecond : Staying known (· = .second) := staying_second
  exact Run.staysIn_releasing (hrest.held.trans hknown)
    ((hp.advance .null).frame hsecond subset_rfl rfl)

theorem staying_serving (kind : Kind) {inner : Process} (hinner : inner.StaysIn realm) :
    Staying realm (· = .serving kind inner) := by
  refine .of_admits (fun _ => trivial) hinner.held fun v rest larger hle hrest => ?_
  show (Run.releasing rest.held fun _ => inner.advance v).StaysIn larger
  exact Run.staysIn_releasing hrest.held ((hinner.mono hle).advance v)

theorem staying_scope {token : Token} (htoken : .claim (.scope token) ∈ realm) :
    Staying realm (· = .scope token) where
  claims := by
    rintro _ rfl
    simpa [claims] using htoken
  completed := by
    rintro _ rfl v rest larger hle hrest -
    show (Run.releasing (.scope token :: rest.held) fun _ => .ended v).StaysIn larger
    exact Run.staysIn_releasing (claimed_cons_subset.mpr ⟨hle htoken, hrest.held⟩)
      (Run.staysIn_ended v)
  answered := by
    rintro _ rfl kind payload rest larger hle hnot hpayload - hrest -
    obtain rfl : kind = .escape token := Decidable.not_not.mp hnot
    show ((Run.suspended (.escape token) payload rest).within token).StaysIn larger
    rw [Run.within_escape]
    refine Run.staysIn_report _ (Run.staysIn_releasing ?_ ?_)
    · exact claimed_cons_subset.mpr
        ⟨hle htoken, claimed_append_subset.mpr ⟨hpayload.held, hrest.held⟩⟩
    · cases payload.toValue (.escape token) with
      | ok value => exact Run.staysIn_ended value
      | error failure => exact Run.staysIn_aborted failure

/-- The layer of a handler is checked with the handler, which may touch what is in the payload. Its
runs may start the body in a payload, inside this same layer. -/
theorem staying_handled {h : Handler}
    (hh : ∀ (payload : Payload) larger, realm ⊆ larger → payload.StaysIn larger →
      (∀ held enter, payload = .body held enter → ∀ token,
        ((enter token).handledBy h).StaysIn (larger ∪ {.claim (.scope token)})) →
      (h.handle payload).StaysIn larger) : Staying realm (· = .handled h) where
  claims := by
    rintro _ rfl
    exact claimed_nil_subset realm
  completed := by
    rintro _ rfl v rest larger - hrest -
    exact hrest.held
  answered := by
    rintro _ rfl kind payload rest larger hle hnot hpayload hbodies - hrest
    have hkind : kind = h.kind := Decidable.not_not.mp hnot
    have hserved := hh payload larger hle hpayload fun held enter hbody =>
      hbodies held enter hbody _ rfl
    show ((Run.suspended kind payload rest).handledBy h).StaysIn larger
    rw [Run.handledBy, if_pos hkind]
    exact Run.staysIn_report _ (hserved.frame
      (staying_serving h.kind (hrest (.handled h) rfl)) subset_rfl rfl)

end Frame

/-- What the layer does, in whatever state, touches nothing outside the realm but what belongs to
the payload that it answers. -/
structure Threaded.StaysIn {σ : Type} (l : Threaded σ) (realm : Realm) : Prop where
  answer : ∀ state (payload : Payload) larger, realm ⊆ larger → payload.StaysIn larger →
    (l.answer state payload).Touches larger
  finish : ∀ state v, (l.finish state v).Touches realm

/-- A layer that only computes needs no realm. -/
theorem Threaded.staysIn_computing {σ : Type} (kind : Kind) (initial : σ)
    (answer : σ → Payload → Except Failure Value × σ) (finish : σ → Value → Value) (realm : Realm) :
    (Threaded.computing kind initial answer finish).StaysIn realm where
  answer state payload larger _ hpayload := by
    have hheld := hpayload.held
    show ((Plan.release payload.held).bind fun _ => .done (answer state payload)).Touches larger
    cases hclaims : payload.held with
    | nil => trivial
    | cons claim claims => exact ⟨hclaims ▸ hheld, fun _ => trivial⟩
  finish _ _ := trivial

theorem Frame.staying_threaded {σ : Type} {l : Threaded σ} (hl : l.StaysIn realm) :
    Frame.Staying realm fun frame => ∃ state, frame = .threaded l state where
  claims := by
    rintro _ ⟨state, rfl⟩
    exact claimed_nil_subset realm
  completed := by
    rintro _ ⟨state, rfl⟩ v rest larger hle hrest -
    have hfinish := (hl.finish state v).mono (fun _ _ _ _ _ => trivial) hle
    exact Run.staysIn_ofPlan hfinish fun _ known hknown _ => hrest.held.trans hknown
  answered := by
    rintro _ ⟨state, rfl⟩ kind payload rest larger hle hnot hpayload - - hrest
    have hkind : kind = l.kind := Decidable.not_not.mp hnot
    show ((Run.suspended kind payload rest).threadedBy l state).StaysIn larger
    rw [Run.threadedBy, if_pos hkind]
    refine Run.staysIn_report _ (Run.staysIn_ofPlan (hl.answer state payload larger hle hpayload)
      fun answered known hknown _ => ?_)
    obtain ⟨outcome, left⟩ := answered
    have hleft : (rest.threadedBy l left).StaysIn known :=
      (hrest (.threaded l left) ⟨left, rfl⟩).mono hknown
    cases outcome with
    | ok value => exact hleft.advance value
    | error failure => exact hleft

theorem Process.staysIn_perform {kind : Kind} (hkind : kind.touches ⊆ realm) {payload : Payload}
    (hpayload : payload.StaysIn realm) : (Process.perform kind payload).StaysIn realm :=
  ⟨hpayload.held, fun _ =>
    ⟨hkind, hpayload, claimed_nil_subset realm, fun v => Run.staysIn_ended v⟩⟩

theorem Process.StaysIn.andThen {p : Process} (hp : p.StaysIn realm) {next : Value → Plan Process}
    (hnext : ∀ v, (next v).StaysIn Process.StaysIn realm) : (p.andThen next).StaysIn realm :=
  hp.frame (Frame.staying_first (claimed_nil_subset realm) hnext) subset_rfl rfl

/-- The layer does not take a process out of the realm, nor out of a larger one. -/
def Layer.StaysIn (layer : Layer) (realm : Realm) : Prop :=
  ∀ larger, realm ⊆ larger → ∀ p : Process, p.StaysIn larger → (layer.apply p).StaysIn larger

theorem Stack.staysIn_interpret {s : Stack} (hlayers : ∀ layer ∈ s.layers, layer.StaysIn realm)
    {p : Process} (hp : p.StaysIn realm) : (s.interpret p).StaysIn realm := by
  obtain ⟨layers⟩ := s
  induction layers with
  | nil => exact hp
  | cons layer layers ih =>
    exact hlayers layer List.mem_cons_self realm subset_rfl _
      (ih fun l hl => hlayers l (List.mem_cons_of_mem _ hl))

theorem Threaded.staysIn_toLayer {σ : Type} {l : Threaded σ} (hl : l.StaysIn realm) :
    l.toLayer.StaysIn realm :=
  fun _ hle _ hp => hp.frame (Frame.staying_threaded hl) hle ⟨l.initial, rfl⟩

theorem Handler.staysIn_toLayer {h : Handler}
    (hh : ∀ (payload : Payload) larger, realm ⊆ larger → payload.StaysIn larger →
      (∀ held enter, payload = .body held enter → ∀ token,
        ((enter token).handledBy h).StaysIn (larger ∪ {.claim (.scope token)})) →
      (h.handle payload).StaysIn larger) : h.toLayer.StaysIn realm := by
  intro larger hle p hp
  have hhandled : ((Frame.handled h).process p).StaysIn larger :=
    hp.frame (Frame.staying_handled hh) hle rfl
  exact hhandled

/-- A logging layer needs no realm, whatever sink it writes to. -/
theorem staysIn_logHandler (sink : Sink) (realm : Realm) :
    (logHandler sink).toLayer.StaysIn realm := by
  refine Handler.staysIn_toLayer ?_
  rintro payload larger - hpayload -
  simp only [logHandler]
  cases logEntry payload with
  | ok entry => cases sink <;> exact ⟨Set.empty_subset _, fun _ => Run.staysIn_ended .null⟩
  | error failure => exact Run.staysIn_aborting hpayload.held _

/-- Nor does the layer for `call-cc`: the scopes that it makes are new. -/
theorem staysIn_captureHandler (realm : Realm) : captureHandler.toLayer.StaysIn realm := by
  refine Handler.staysIn_toLayer ?_
  rintro payload larger - hpayload hbodies
  cases payload with
  | body held enter =>
    refine ⟨Set.empty_subset _, fun token => ?_⟩
    have hbody := hbodies held enter rfl token
    rw [Run.handledBy_captureHandler] at hbody
    have hscope : Frame.Staying (larger ∪ {.claim (.scope token)}) (· = .scope token) :=
      Frame.staying_scope (.inr rfl)
    exact hbody.frame hscope subset_rfl rfl
  | none | value v => exact Run.staysIn_aborted _
  | future pending => exact Run.staysIn_aborting hpayload.held _

/-! ## The bridge -/

namespace Operation

theorem staysIn_releasing {claims : List Claim} {next : Unit → Operation}
    (hclaims : claimed claims ⊆ realm) (h : (next ()).StaysIn realm) :
    (Operation.releasing claims next).StaysIn realm := by
  cases claims with
  | nil => exact h
  | cons claim claims => exact ⟨hclaims, fun _ => h.mono Set.subset_union_left⟩

theorem staysIn_report (event : Event) {next : Operation} (h : next.StaysIn realm) :
    (Operation.act (.report event) fun _ => next).StaysIn realm :=
  ⟨Set.empty_subset _, fun _ => h.mono Set.subset_union_left⟩

theorem StaysIn.andThen {op : Operation} (h : op.StaysIn realm) (held : List Claim)
    {next : Outcome → Operation} (hnext : ∀ outcome, (next outcome).StaysIn realm) :
    (op.andThen held next).StaysIn realm := by
  induction op generalizing realm with
  | settled outcome => exact hnext outcome
  | act a rest ih =>
    exact ⟨h.1, fun answer => ih answer (h.2 answer) fun outcome =>
      (hnext outcome).mono Set.subset_union_left⟩
  | sleep ms own rest ih => exact ih h hnext
  | receive channel own rest ih => exact ⟨h.1, fun outcome => ih outcome (h.2 outcome) hnext⟩

/-- Finding out what is wrong with a command that nobody has answered touches the scope that it
leaves. -/
theorem staysIn_unhandled {kind : Kind} (hkind : kind.touches ⊆ realm)
    {next : Failure → Operation} (h : ∀ failure, (next failure).StaysIn realm) :
    (Operation.ofPlan kind.unhandled next).StaysIn realm := by
  cases kind with
  | tag name => exact staysIn_report _ (h _)
  | escape token => exact ⟨hkind, fun _ => (staysIn_report _ (h _)).mono Set.subset_union_left⟩

end Operation

theorem Run.StaysIn.awaited {r : Run} (h : r.StaysIn realm) : r.awaited.StaysIn realm := by
  induction r using Run.induct generalizing realm with
  | act a next ih => exact ⟨h.1, fun answer => ih answer (h.2 answer)⟩
  | completed v rest => exact Operation.staysIn_releasing (Process.StaysIn.held h) trivial
  | failed failure rest => exact Operation.staysIn_releasing (Process.StaysIn.held h) trivial
  | suspended kind payload rest ih =>
    obtain ⟨hkind, hpayload, hrest⟩ := h
    have hdropped (failure : Failure) :
        (Operation.releasing (payload.held ++ rest.held) fun _ =>
          .settled (.error failure)).StaysIn realm :=
      Operation.staysIn_releasing (claimed_append_subset.mpr ⟨hpayload.held, hrest.held⟩) trivial
    rw [Run.awaited]
    split
    · cases payload with
      | future pending =>
        refine Operation.staysIn_report _ (hpayload.2.andThen _ fun outcome => ?_)
        cases outcome with
        | ok value =>
          show (rest.awaited value).StaysIn realm
          rw [Process.awaited_eq]
          exact ih value (hrest.advance value)
        | error failure =>
          exact Operation.staysIn_report _ (Operation.staysIn_releasing hrest.held trivial)
      | none | value v | body held enter => exact hdropped _
    · exact Operation.staysIn_unhandled hkind hdropped

/-- The bridge of a process stays in the realm of the process. -/
theorem Process.StaysIn.bridge {p : Process} (h : p.StaysIn realm) :
    p.bridge.start.StaysIn realm := by
  show (p.awaited .null).StaysIn realm
  rw [Process.awaited_eq]
  exact (h.advance .null).awaited

end Effects
