import Effects.Proofs.Answering
import Effects.Proofs.Coverage
import Effects.Proofs.Instrumentation
import Effects.Proofs.Reports

/-!
# From commands to calls of a store

The layer for `db` commands decodes each command and waits for a call of the store. Whether the call
is ever made is up to the driver: the bridge makes it, and no other driver does.

`Run.servedBy` is the operation that makes the calls itself, each at the place of its command, and
goes on after the call has settled. The bridge of a process under the layer is this operation,
reports aside (`Run.alike_awaited_handledBy`). In one piece it is a driver that is answered from
outside, by `calling`, which writes the calls down; so what has been called can be compared with
what has been said, command by command.

Without the bridge a call is no more than the payload of a `wait` command. The layer itself leaves
the stores alone, as every confined process does, and the driver does not know what to do with the
command.
-/

namespace Effects

/-! ## Requests as payloads -/

namespace StoreRequest

/-- Nothing is lost when a request is carried by a value. -/
theorem ofPayload_toValue (r : StoreRequest) : ofPayload (.value r.toValue) = .ok r := by
  have horder : "args" < "method" := by decide
  have hfields : r.toValue = .obj [("args", .list r.args), ("method", .str r.method)] := by
    simp only [toValue, Value.ofFields, Fields.ofList, List.foldl_cons, List.foldl_nil,
      Fields.insert, if_pos horder]
  rw [hfields]
  rfl

/-- A payload carries a request if it is a value with a method. -/
theorem exists_ofPayload_iff (payload : Payload) :
    (∃ r, ofPayload payload = .ok r) ↔
      ∃ v method, payload = .value v ∧ v.get? "method" = some (.str method) := by
  constructor
  · rintro ⟨r, h⟩
    cases payload with
    | value v =>
      have hvalue : ofValue v = .ok r := h
      rw [ofValue] at hvalue
      split at hvalue
      · rename_i method hmethod
        obtain ⟨name, hname, hstr⟩ := Option.bind_eq_some_iff.mp hmethod
        cases name <;> cases hstr
        exact ⟨v, method, rfl, hname⟩
      · cases hvalue
    | none | future pending | body held enter => cases h
  · rintro ⟨v, method, rfl, hmethod⟩
    have hasked : (v.get? "method").bind Value.asStr? = some method := by rw [hmethod]; rfl
    refine ⟨⟨method, ((v.get? "args").bind Value.asList?).getD []⟩, ?_⟩
    show ofValue v = _
    rw [ofValue, hasked]

end StoreRequest

/-! ## The operation that makes the calls -/

section

variable (service : Service)

mutual

/-- The operation of a process, advanced with an input, that makes a call of the store for each
`db` command. -/
def Process.servedBy : Process → Value → Operation
  | .spent held, _ => .releasing held fun _ => .settled (.error .alreadyCompleted)
  | .paused _ resume, input => (resume input).servedBy

/-- The operation of a run that makes the call of the store at the place of each `db` command, and
goes on with its value after it has settled. If the payload carries no request there is no call, and
the run fails. A wait is treated in the same way, and no other command can be served. -/
def Run.servedBy : Run → Operation
  | .act a rest => .act a fun answer => (rest answer).servedBy
  | .completed value rest => .releasing rest.held fun _ => .settled (.ok value)
  | .failed failure rest => .releasing rest.held fun _ => .settled (.error failure)
  | .suspended kind payload rest =>
    if kind = .db then
      match StoreRequest.ofPayload payload with
      | .ok request =>
        (service.call request).start.andThen rest.held fun
          | .ok value => rest.servedBy value
          | .error failure =>
            .releasing rest.held fun _ => .settled (.error (.asyncFailure failure))
      | .error failure =>
        .releasing payload.held fun _ => .releasing rest.held fun _ => .settled (.error failure)
    else if kind = .wait then
      match payload.toFuture kind with
      | .ok pending =>
        pending.start.andThen rest.held fun
          | .ok value => rest.servedBy value
          | .error failure =>
            .releasing rest.held fun _ => .settled (.error (.asyncFailure failure))
      | .error failure =>
        .releasing (payload.held ++ rest.held) fun _ => .settled (.error failure)
    else
      .ofPlan kind.unhandled fun failure =>
        .releasing (payload.held ++ rest.held) fun _ => .settled (.error failure)

end

/-- What such an operation does with the outcome of a call, or of a wait. -/
def Process.servedWith (rest : Process) : Outcome → Operation
  | .ok value => rest.servedBy service value
  | .error failure => .releasing rest.held fun _ => .settled (.error (.asyncFailure failure))

theorem Process.servedBy_eq (p : Process) (v : Value) :
    p.servedBy service v = (p.advance v).servedBy service := by
  cases p <;> rfl

namespace Run

variable {service} {payload : Payload}

theorem servedBy_call {request : StoreRequest} (h : StoreRequest.ofPayload payload = .ok request)
    (rest : Process) :
    (Run.suspended .db payload rest).servedBy service =
      (service.call request).start.andThen rest.held (rest.servedWith service) := by
  simp only [servedBy, if_pos, h]
  exact congrArg (fun next => Operation.andThen rest.held next _)
    (funext fun outcome => by cases outcome <;> rfl)

theorem servedBy_malformed {failure : Failure} (h : StoreRequest.ofPayload payload = .error failure)
    (rest : Process) :
    (Run.suspended .db payload rest).servedBy service =
      .releasing payload.held fun _ =>
        .releasing rest.held fun _ => .settled (.error failure) := by
  simp only [servedBy, if_pos, h]

theorem servedBy_wait {pending : Pending} (h : payload.toFuture .wait = .ok pending)
    (rest : Process) :
    (Run.suspended .wait payload rest).servedBy service =
      pending.start.andThen rest.held (rest.servedWith service) := by
  have hkind : (.wait : Kind) ≠ .db := by decide
  simp only [servedBy, if_neg hkind, if_pos, h]
  exact congrArg (fun next => Operation.andThen rest.held next _)
    (funext fun outcome => by cases outcome <;> rfl)

end Run

end

/-! ## Layers for `db` commands -/

/-- The plans start the calls of the service and do nothing else, apart from reports. -/
def Service.StartedBy (service : Service) (call : StoreRequest → Plan Pending) : Prop :=
  ∀ request (next : Pending → Operation) (op : Operation),
    (next (service.call request)).Alike op → (Operation.ofPlan (call request) next).Alike op

/-- The layer for `db` commands and the one that is given the store as a function. -/
inductive Service.Handles (service : Service) : Handler → Prop where
  | named : Handles service (dbHandler service)
  | given : Handles service (dbHandlerWith fun request => .done (service.call request))

theorem Run.awaited_wait {payload : Payload} {pending : Pending}
    (h : payload.toFuture .wait = .ok pending) (rest : Process) :
    (Run.suspended .wait payload rest).awaited =
      .reporting .debug "awaiting pending operation" [] fun _ =>
        pending.start.andThen rest.held (Loop.resumed rest) := by
  simp only [awaited, if_pos, h]
  exact congrArg (Operation.reporting .debug "awaiting pending operation" []) (funext fun _ =>
    congrArg (fun next => Operation.andThen rest.held next _)
      (funext fun outcome => by cases outcome <;> rfl))

/-- The bridge of a handler that waits for an operation, and of the process inside after that. -/
theorem Run.awaited_serving_awaiting (kind : Kind) (inner : Process) (pending : Pending) :
    (Run.serving kind inner (awaiting pending).start).awaited =
      .reporting .trace "handler suspended" [("kind", "wait"), ("handling", kind.shown)] fun _ =>
        .reporting .debug "awaiting pending operation" [] fun _ =>
          pending.start.andThen inner.held (Loop.resumed inner) := by
  have hresumed : Loop.resumed (.serving kind inner (.paused [] .ended)) = Loop.resumed inner := by
    funext outcome
    cases outcome with
    | ok v => exact (inner.awaited_eq v).symm
    | error failure => rfl
  rw [← hresumed]
  exact congrArg (Operation.reporting .trace "handler suspended" _)
    (funext fun _ => awaited_wait rfl _)

theorem Run.awaited_serving_ofPlan {α : Type} (kind : Kind) (inner : Process) (plan : Plan α)
    (next : α → Run) :
    (Run.serving kind inner (.ofPlan plan next)).awaited =
      .ofPlan plan fun a => (Run.serving kind inner (next a)).awaited := by
  induction plan with
  | done a => rfl
  | act a rest ih => exact congrArg (Operation.act a) (funext ih)

/-- The bridge of a handler that fails, after claims have been given up. -/
theorem Run.awaited_serving_aborted (kind : Kind) (inner : Process) (claims : List Claim)
    (failure : Failure) :
    (Run.serving kind inner (.releasing claims fun _ => .aborted failure)).awaited =
      .releasing claims fun _ => .releasing inner.held fun _ => .settled (.error failure) := by
  cases claims <;> rfl

section

variable {service : Service} {call : StoreRequest → Plan Pending}

/-- Reports aside, the bridge of a process under the layer is the operation that makes the calls. -/
theorem Run.alike_awaited_handledBy (hcall : service.StartedBy call) (r : Run) :
    (r.handledBy (dbHandlerWith call)).awaited.Alike (r.servedBy service) := by
  induction r using Run.induct with
  | act a next ih => exact .act a ih
  | completed v rest => exact .refl _
  | failed failure rest =>
    rw [handledBy, awaited, servedBy, Process.held_handledBy]
    exact .refl _
  | suspended kind payload rest ih =>
    have hresumed (outcome : Outcome) :
        (Loop.resumed (rest.handledBy (dbHandlerWith call)) outcome).Alike
          (rest.servedWith service outcome) := by
      cases outcome with
      | ok v =>
        rw [Loop.resumed, Process.servedWith, Process.awaited_eq, Process.servedBy_eq,
          Process.advance_handledBy]
        exact ih v
      | error failure =>
        rw [Loop.resumed, Process.servedWith, Process.held_handledBy]
        exact .reportedLeft rfl (.refl _)
    by_cases hdb : kind = .db
    · subst hdb
      refine .reportedLeft rfl ?_
      show (Run.serving .db (rest.handledBy (dbHandlerWith call))
        ((dbHandlerWith call).handle payload)).awaited.Alike _
      cases hrequest : StoreRequest.ofPayload payload with
      | ok request =>
        have hhandle : (dbHandlerWith call).handle payload =
            .ofPlan (call request) fun pending => (awaiting pending).start := by
          simp only [dbHandlerWith, hrequest]
        rw [hhandle, awaited_serving_ofPlan, servedBy_call hrequest]
        refine hcall request _ _ ?_
        rw [awaited_serving_awaiting, Process.held_handledBy]
        exact .reportedLeft rfl (.reportedLeft rfl (.andThen (.refl _) _ hresumed))
      | error failure =>
        have hhandle : (dbHandlerWith call).handle payload =
            .releasing payload.held fun _ => .aborted failure := by
          simp only [dbHandlerWith, hrequest]
        rw [hhandle, awaited_serving_aborted, servedBy_malformed hrequest, Process.held_handledBy]
        exact .refl _
    · have hpassed : kind ≠ (dbHandlerWith call).kind := hdb
      rw [handledBy, if_neg hpassed]
      refine .reportedLeft rfl ?_
      by_cases hwait : kind = .wait
      · subst hwait
        cases hfuture : payload.toFuture .wait with
        | ok pending =>
          rw [awaited_wait hfuture, servedBy_wait hfuture, Process.held_handledBy]
          exact .reportedLeft rfl (.andThen (.refl _) _ hresumed)
        | error failure =>
          simp only [awaited, servedBy, if_neg hdb, if_pos, hfuture, Process.held_handledBy]
          exact .refl _
      · simp only [awaited, servedBy, if_neg hdb, if_neg hwait, Process.held_handledBy]
        exact .refl _

end

namespace Service.Handles

variable {service : Service} {store : Handler}

theorem exists_call (h : service.Handles store) :
    ∃ call, store = dbHandlerWith call ∧ service.StartedBy call := by
  cases h with
  | named => exact ⟨_, rfl, fun _ _ _ hnext => .reportedLeft rfl hnext⟩
  | given => exact ⟨_, rfl, fun _ _ _ hnext => hnext⟩

theorem alike_bridge (h : service.Handles store) (c : Process) :
    (store.toLayer.apply c).bridge.start.Alike (c.servedBy service .null) := by
  obtain ⟨call, rfl, hcall⟩ := h.exists_call
  show ((c.handledBy (dbHandlerWith call)).awaited .null).Alike _
  rw [Process.awaited_eq, Process.advance_handledBy, Process.servedBy_eq]
  exact Run.alike_awaited_handledBy hcall _

end Service.Handles

/-! ## The calls in a row -/

/-- Answers commands for the synchronous driver: a `db` command by one call of the store, carried
out in one piece, which is written down with its outcome. If the payload carries no request there is
no call. Waits are answered by what their operations come to. -/
def calling (outcomes : Channel → Outcome) (service : Service) :
    Responder (List Wait × List (StoreRequest × Outcome)) := fun (waits, calls) command =>
  if command.kind = .db then
    match StoreRequest.ofPayload command.payload with
    | .ok request =>
      ((service.call request).start.carriedOut outcomes waits).bind fun (outcome, waits) =>
        .done (outcome.mapError .asyncFailure, waits, calls ++ [(request, outcome)])
    | .error failure =>
      (Plan.release command.payload.held).bind fun _ => .done (.error failure, waits, calls)
  else
    (answering outcomes waits command).bind fun (outcome, waits) => .done (outcome, waits, calls)

section

variable {outcomes : Channel → Outcome} {service : Service}

/-- The operation that makes the calls, in one piece, is the driver that is answered by them. -/
theorem Run.alike_carriedOut_servedBy (r : Run) (waits : List Wait)
    (calls : List (StoreRequest × Outcome)) :
    ((r.servedBy service).carriedOut outcomes waits).Alike
      ((r.answeredBy (calling outcomes service) (waits, calls)).bind fun driven =>
        .done (driven.1, driven.2.1)) := by
  induction r using Run.induct generalizing waits calls with
  | act a next ih => exact .act a fun answer => ih answer waits calls
  | completed v rest =>
    rw [servedBy, answeredBy, Operation.carriedOut_releasing, Plan.bind_assoc]
    exact .refl _
  | failed failure rest =>
    rw [servedBy, answeredBy, Operation.carriedOut_releasing, Plan.bind_assoc]
    exact .refl _
  | suspended kind payload rest ih =>
    let answered := fun answer : Outcome × List Wait × List (StoreRequest × Outcome) =>
      (rest.answeredWith (calling outcomes service) answer).bind fun driven =>
        .done (driven.1, driven.2.1)
    have hfailed (failure : Failure) (waits : List Wait) (calls : List (StoreRequest × Outcome)) :
        answered (.error failure, waits, calls) = (Operation.releasing rest.held fun _ =>
          .settled (.error failure)).carriedOut outcomes waits := by
      rw [Operation.carriedOut_releasing]
      exact Plan.bind_assoc _ _ _
    have hserved (outcome : Outcome) (waits : List Wait) (calls : List (StoreRequest × Outcome)) :
        ((rest.servedWith service outcome).carriedOut outcomes waits).Alike
          (answered (outcome.mapError .asyncFailure, waits, calls)) := by
      cases outcome with
      | ok v =>
        show ((rest.servedBy service v).carriedOut outcomes waits).Alike
          ((rest.answeredBy (calling outcomes service) (waits, calls) v).bind _)
        rw [Process.servedBy_eq, Process.answeredBy_eq]
        exact ih v waits calls
      | error failure =>
        rw [Except.mapError, hfailed]
        exact .refl _
    -- whatever else is asked for, claims are given up together or one after the other
    have hdropped (failure : Failure) : ((Operation.releasing (payload.held ++ rest.held) fun _ =>
          .settled (.error failure)).carriedOut outcomes waits).Alike
        ((Plan.release payload.held).bind fun _ => answered (.error failure, waits, calls)) := by
      rw [hfailed, Operation.carriedOut_releasing, Operation.carriedOut_releasing]
      exact .release_append _ _ _
    rw [answeredBy_suspended, Plan.bind_assoc, calling]
    by_cases hdb : kind = .db
    · subst hdb
      simp only [if_pos]
      cases hrequest : StoreRequest.ofPayload payload with
      | ok request =>
        simp only [servedBy_call hrequest, Operation.carriedOut_andThen, Plan.bind_assoc]
        exact .bind (.refl _) fun ended => hserved _ _ _
      | error failure =>
        rw [servedBy_malformed hrequest, Operation.carriedOut_releasing, Plan.bind_assoc,
          ← hfailed failure waits calls]
        exact .refl _
    · simp only [if_neg hdb]
      rw [Plan.bind_assoc, answering]
      by_cases hwait : kind = .wait
      · subst hwait
        simp only [if_pos]
        cases hfuture : payload.toFuture .wait with
        | ok pending =>
          simp only [servedBy_wait hfuture, Operation.carriedOut_andThen, Plan.bind_assoc]
          exact .bind (.refl _) fun ended => hserved _ _ _
        | error failure =>
          simp only [servedBy, if_neg hdb, if_pos, hfuture, Plan.bind_assoc]
          exact hdropped failure
      · simp only [servedBy, if_neg hdb, if_neg hwait, Operation.carriedOut_ofPlan,
          Plan.bind_assoc]
        exact .bind (.refl _) hdropped

/-- What the bridge comes to, if it can have all that it waits for. -/
theorem Service.Handles.comesTo {store : Handler} (h : service.Handles store) (c : Process)
    (who : Party) {m : Machine}
    (havailable : (store.toLayer.apply c).bridge.start.Available outcomes m.world) :
    let driven := m.world.carryOut (c.driveWith (calling outcomes service) ([], []))
    (store.toLayer.apply c).bridge.start.ComesTo who outcomes m driven.1.1
      (elapsed driven.1.2.1) driven.2 := by
  intro driven
  have halike := h.alike_bridge c
  have hserved := (halike.available rfl havailable).comesTo who
  have hdriven : ((c.servedBy service .null).carriedOut outcomes []).Alike
      ((c.driveWith (calling outcomes service) ([], [])).bind fun driven =>
        .done (driven.1, driven.2.1)) := by
    rw [Process.servedBy_eq, Process.driveWith, Process.answeredBy_eq]
    exact Run.alike_carriedOut_servedBy _ [] []
  obtain ⟨hresult, hworld⟩ := hdriven (rfl : m.world.quiet = m.world.quiet)
  rw [World.carryOut_bind] at hresult hworld
  rw [hresult] at hserved
  exact (halike.comesTo who hserved).left_congr (World.unheard_eq_of_quiet hworld)

end

/-! ## What is said and what is called -/

/-- What a responder keeps while it answers is kept to the end. -/
theorem Run.answeredBy_keeps {σ : Type} {respond : Responder σ} {Kept : σ → Prop}
    (hrespond : ∀ state command (w : World), Kept state →
      Kept (w.carryOut (respond state command)).1.2)
    (r : Run) (w : World) (state : σ) (h : Kept state) :
    Kept (w.carryOut (r.answeredBy respond state)).1.2 := by
  induction r using Run.induct generalizing w state with
  | act a next ih => exact ih _ _ state h
  | completed | failed => simpa [answeredBy] using h
  | suspended kind payload rest ih =>
    have hanswered := hrespond state ⟨kind, payload⟩ w h
    rw [answeredBy_suspended, World.carryOut_bind]
    generalize w.carryOut (respond state ⟨kind, payload⟩) = answered at hanswered
    obtain ⟨⟨failure | v, state'⟩, w'⟩ := answered
    · simpa [Process.answeredWith] using hanswered
    · rw [Process.answeredWith, Process.answeredBy_eq]
      exact ih v w' state' hanswered

/-- Among some exchanges and one after them, a failure can only be in the last one. -/
theorem failure_last_of_snoc {said before after : List (Command × Outcome)}
    {exchange : Command × Outcome} {command : Command} {failure : Failure}
    (hsaid : ∀ exchange ∈ said, ∃ v, exchange.2 = .ok v)
    (h : said ++ [exchange] = before ++ (command, .error failure) :: after) :
    after = [] ∧ exchange = (command, .error failure) := by
  cases after using List.reverseRecOn with
  | nil => exact ⟨rfl, List.singleton_inj.mp (List.append_inj' h rfl).2⟩
  | append_singleton after last =>
    rw [← List.cons_append, ← List.append_assoc] at h
    obtain rfl := (List.append_inj' h rfl).1
    obtain ⟨v, hv⟩ := hsaid (command, .error failure) (by simp)
    cases hv

/-- An answer that is a failure is the last one, and the driver returns it. -/
theorem Run.failure_last {σ : Type} (respond : Responder σ) (r : Run) (w : World) (state : σ)
    {said : List (Command × Outcome)} (hsaid : ∀ exchange ∈ said, ∃ v, exchange.2 = .ok v) :
    let driven := (w.carryOut (r.answeredBy respond.recording (state, said))).1
    ∀ before command failure after, driven.2.2 = before ++ (command, .error failure) :: after →
      after = [] ∧ driven.1 = .error failure := by
  induction r using Run.induct generalizing w state said with
  | act a next ih => exact ih _ _ _ hsaid
  | completed | failed =>
    intro driven before command failure after h
    have hnone : said = before ++ (command, .error failure) :: after := by
      simpa [driven, answeredBy] using h
    obtain ⟨v, hv⟩ := hsaid (command, .error failure) (by simp [hnone])
    cases hv
  | suspended kind payload rest ih =>
    rw [answeredBy_suspended, Responder.recording, Plan.bind_assoc, World.carryOut_bind]
    obtain ⟨⟨answer, state'⟩, w'⟩ := w.carryOut (respond state ⟨kind, payload⟩)
    cases answer with
    | ok v =>
      rw [World.carryOut_bind, World.carryOut_done, Process.answeredWith, Process.answeredBy_eq]
      refine ih v w' state' fun exchange hexchange => ?_
      rcases List.mem_append.mp hexchange with hmem | hlast
      · exact hsaid exchange hmem
      · exact ⟨v, by rw [List.mem_singleton.mp hlast]⟩
    | error e =>
      intro driven before command failure after h
      have hsnoc : said ++ [(⟨kind, payload⟩, .error e)] =
          before ++ (command, .error failure) :: after := by
        simpa [driven, Process.answeredWith] using h
      obtain ⟨hafter, hlast⟩ := failure_last_of_snoc hsaid hsnoc
      refine ⟨hafter, ?_⟩
      simpa [driven, Process.answeredWith] using congrArg Prod.snd hlast

theorem World.failure_last {σ : Type} (respond : Responder σ) (w : World) (state : σ) (c : Process)
    (before : List (Command × Outcome)) (command : Command) (failure : Failure)
    (after : List (Command × Outcome))
    (h : (w.converse respond state c).exchanges = before ++ (command, .error failure) :: after) :
    after = [] ∧ (w.converse respond state c).outcome = .error failure := by
  have hnone : ∀ exchange ∈ ([] : List (Command × Outcome)), ∃ v, exchange.2 = .ok v := nofun
  have hlast := (c.advance .null).failure_last respond w state hnone
  rw [← Process.answeredBy_eq] at hlast
  obtain ⟨hafter, houtcome⟩ := hlast before command failure after h
  have hextends := respond.extends_recording.carryOut_driveWith c (state, []) w
  exact ⟨hafter, (congrArg (fun driven => driven.1.1) hextends).trans houtcome⟩

/-- The request that a command carries, with the answer to the command. -/
def requested? : Command × Outcome → Option (StoreRequest × Outcome)
  | (command, answer) =>
    if command.kind = .db then
      match StoreRequest.ofPayload command.payload with
      | .ok request => some (request, answer)
      | .error _ => none
    else none

/-- The calls are those that the commands have asked for, in the same order, and each command has
been answered with what its call came to. A command without a request has been answered with the
failure to read it. -/
structure Accounted (calls : List (StoreRequest × Outcome)) (said : List (Command × Outcome)) :
    Prop where
  called : calls.map (fun call => (call.1, call.2.mapError .asyncFailure)) =
    said.filterMap requested?
  refused : ∀ exchange ∈ said, exchange.1.kind = .db → ∀ failure,
    StoreRequest.ofPayload exchange.1.payload = .error failure → exchange.2 = .error failure

/-- One more exchange, with its call if there is one. -/
theorem Accounted.snoc {calls : List (StoreRequest × Outcome)} {said : List (Command × Outcome)}
    (h : Accounted calls said) {exchange : Command × Outcome} (more : List (StoreRequest × Outcome))
    (hcalled : more.map (fun call => (call.1, call.2.mapError .asyncFailure)) =
      (requested? exchange).toList)
    (hrefused : exchange.1.kind = .db → ∀ failure,
      StoreRequest.ofPayload exchange.1.payload = .error failure → exchange.2 = .error failure) :
    Accounted (calls ++ more) (said ++ [exchange]) where
  called := by
    rw [List.map_append, List.filterMap_append, h.called, hcalled]
    cases hrequested : requested? exchange <;> simp [hrequested]
  refused := by
    rw [List.forall_mem_append]
    exact ⟨h.refused, List.forall_mem_singleton.mpr hrefused⟩

section

variable {outcomes : Channel → Outcome} {service : Service}

theorem Accounted.calling (state : List Wait × List (StoreRequest × Outcome))
    (said : List (Command × Outcome)) (command : Command) (w : World)
    (h : Accounted state.2 said) :
    let answered := (w.carryOut ((calling outcomes service).recording (state, said) command)).1
    Accounted answered.2.1.2 answered.2.2 := by
  obtain ⟨waits, calls⟩ := state
  obtain ⟨kind, payload⟩ := command
  -- an exchange without a call
  have huncalled (answer : Outcome) (hnone : requested? (⟨kind, payload⟩, answer) = none)
      (hrefused : kind = .db → ∀ failure, StoreRequest.ofPayload payload = .error failure →
        answer = .error failure) :
      Accounted calls (said ++ [(⟨kind, payload⟩, answer)]) := by
    have hsnoc := h.snoc [] (by rw [hnone]; rfl) hrefused
    rwa [List.append_nil] at hsnoc
  rw [Responder.recording, World.carryOut_bind, Effects.calling]
  by_cases hdb : kind = .db
  · subst hdb
    simp only [if_pos]
    cases hrequest : StoreRequest.ofPayload payload with
    | ok request =>
      simp only [World.carryOut_bind, World.carryOut_done]
      refine h.snoc [_] (by simp [requested?, hrequest]) fun _ failure herror => ?_
      cases hrequest.symm.trans herror
    | error failure =>
      simp only [World.carryOut_bind, World.carryOut_done]
      refine huncalled _ (by simp [requested?, hrequest]) fun _ failure' herror => ?_
      rw [Except.error.inj (hrequest.symm.trans herror)]
  · simp only [if_neg hdb, World.carryOut_bind, World.carryOut_done]
    exact huncalled _ (by simp [requested?, hdb]) fun h => (hdb h).elim

end

/-- The calls that the bridge makes for a process are those that the process asks for. -/
theorem World.accounted (outcomes : Channel → Outcome) (service : Service) (w : World)
    (c : Process) :
    Accounted (w.carryOut (c.driveWith (calling outcomes service) ([], []))).1.2.2
      (w.converse (calling outcomes service) ([], []) c).exchanges := by
  have hrecording (state : (List Wait × List (StoreRequest × Outcome)) × List (Command × Outcome))
      (command : Command) (w : World) (h : Accounted state.1.2 state.2) :
      Accounted (w.carryOut ((calling outcomes service).recording state command)).1.2.1.2
        (w.carryOut ((calling outcomes service).recording state command)).1.2.2 :=
    Accounted.calling state.1 state.2 command w h
  have hstart : Accounted [] [] := ⟨rfl, nofun⟩
  have hkept := (c.advance .null).answeredBy_keeps hrecording w (([], []), []) hstart
  rw [← Process.answeredBy_eq] at hkept
  have hextends := (calling outcomes service).extends_recording.carryOut_driveWith c
    (([], []), []) w
  rw [show w.carryOut (c.driveWith (calling outcomes service) ([], [])) = _ from hextends]
  exact hkept

/-! ## One layer for the other -/

namespace Service

variable (service : Service)

/-- Reports aside, it does not matter how the layer is given the store. -/
theorem silent_handledBy (c : Process) :
    (c.handledBy (dbHandler service)).silent =
      (c.handledBy (dbHandlerWith fun request => .done (service.call request))).silent := by
  let given : Handler := dbHandlerWith fun request => .done (service.call request)
  have hkind : (dbHandler service).kind = given.kind := rfl
  have hhandle (inner : Process) (payload : Payload) :
      (Run.serving .db inner ((dbHandler service).handle payload)).silent =
        (Run.serving .db inner (given.handle payload)).silent := by
    cases hrequest : StoreRequest.ofPayload payload with
    | ok request =>
      simp only [given, dbHandler, dbHandlerWith, hrequest]
      rfl
    | error failure => simp only [given, dbHandler, dbHandlerWith, hrequest]
  exact Process.silent_handledBy hkind hhandle c

/-- Nobody who advances or drives the process can tell which of the two layers is around it. -/
theorem observed_alike (c : Process) (w : World) :
    let named := (dbHandler service).toLayer.apply c
    let given := (dbHandlerWith fun request => .done (service.call request)).toLayer.apply c
    (∀ inputs, w.observe named inputs = w.observe given inputs ∧
      (w.steps named inputs).2.quiet = (w.steps given inputs).2.quiet) ∧
    (w.carryOut named.drive).1 = (w.carryOut given.drive).1 ∧
    (w.carryOut named.drive).2.quiet = (w.carryOut given.drive).2.quiet := by
  intro named given
  have hsilent : named.silent = given.silent := service.silent_handledBy c
  refine ⟨fun inputs => ?_, ?_⟩
  · obtain ⟨hnamed, hnamed'⟩ := World.observe_silent named (rfl : w.quiet = w.quiet) inputs
    obtain ⟨hgiven, hgiven'⟩ := World.observe_silent given (rfl : w.quiet = w.quiet) inputs
    rw [hnamed, hnamed', hgiven, hgiven', hsilent]
    exact ⟨rfl, rfl⟩
  · have hstart : named.start.silent = given.start.silent := by
      rw [Process.start, Process.start, ← Process.advance_silent, hsilent, Process.advance_silent]
    obtain ⟨hnamed, hnamed'⟩ := named.start.alike_drive_silent (rfl : w.quiet = w.quiet)
    obtain ⟨hgiven, hgiven'⟩ := given.start.alike_drive_silent (rfl : w.quiet = w.quiet)
    rw [Process.drive, Process.drive, hnamed, hnamed', hgiven, hgiven', hstart]
    exact ⟨rfl, rfl⟩

end Service

/-! ## Without the bridge -/

/-- The stores are left alone. -/
def Evolution.storesKept : Evolution where
  allows w w' := w'.stores = w.stores
  refl _ := rfl
  trans h h' := h'.trans h
  reported _ _ := rfl
  released w claims := w.stores_release claims

/-- Those frames can keep still more processes confined which expect less of them. -/
theorem Frame.Confining.of_imp {evolution : Evolution} {inside inside' outside : Command → Prop}
    {family : World → Frame → Prop} (h : Frame.Confining evolution inside outside family)
    (himp : ∀ command, inside' command → inside command) :
    Frame.Confining evolution inside' outside family where
  later := h.later
  completed := h.completed
  passed hframe _ _ hadmits hinside := h.passed hframe hadmits (himp _ hinside)
  answered hframe _ _ hnot hinside := h.answered hframe hnot (himp _ hinside)

section

variable {evolution : Evolution} {expected : Command → Prop} {p : Process} {w : World}

/-- Whoever advances a confined process sees what is expected, and so does the world. -/
theorem Process.Confined.steps (hp : p.Confined evolution expected w) (inputs : List Value) :
    evolution.allows w (w.steps p inputs).2 ∧
      ∀ command rest, .suspended command rest ∈ (w.steps p inputs).1 → expected command := by
  induction inputs generalizing p w with
  | nil => exact ⟨evolution.refl w, nofun⟩
  | cons v inputs ih =>
    obtain ⟨hallows, hstep⟩ := (hp.advance v).settle
    obtain ⟨hlater, hexpected⟩ := ih (Step.rest_confined hstep)
    rw [World.steps_cons]
    refine ⟨evolution.trans hallows hlater, fun command rest hmem => ?_⟩
    rcases List.mem_cons.mp hmem with hfirst | hmem
    · rw [← hfirst] at hstep
      exact hstep.1
    · exact hexpected command rest hmem

/-- The driver of a confined process changes the world as it may be changed. -/
theorem Process.Confined.allows_drive (hp : p.Confined evolution expected w) :
    evolution.allows w (w.carryOut p.drive).2 := by
  obtain ⟨hallows, -⟩ := (hp.advance .null).settle
  have hdrive := World.carryOut_drive w p.start
  rw [Process.drive, hdrive]
  change evolution.allows w (w.settle p.start).2 at hallows
  generalize w.settle p.start = ended at hallows ⊢
  obtain ⟨step, w'⟩ := ended
  cases step with
  | completed v rest => exact evolution.trans hallows (evolution.released w' _)
  | failed failure rest => exact evolution.trans hallows (evolution.released w' _)
  | suspended command rest =>
    obtain ⟨kind, payload⟩ := command
    refine evolution.trans hallows (evolution.trans ?_ (evolution.released _ _))
    cases kind with
    | tag name => exact evolution.reported w' [_]
    | escape token => exact evolution.reported w' [_]

end

/-- A command that no frame of a context answers comes out. -/
theorem Context.settle_suspended {context : Context} {kind : Kind}
    (h : ∀ frame ∈ context, frame.Admits kind) (w : World) (payload : Payload) (rest : Process) :
    w.settle (context.run (.suspended kind payload rest)) =
      (.suspended ⟨kind, payload⟩ (context.process rest), w.reported (context.reports kind)) := by
  rw [Context.run_suspended h, World.settle_reportingAll]
  rfl

section

variable {service : Service} {store : Handler} {evolution : Evolution} {expected : Command → Prop}
  (h : service.Handles store)

include h

theorem Service.Handles.kind_eq : store.kind = .db := by
  cases h <;> rfl

/-- The handler does nothing to the world but to report. All that it asks for is that somebody waits
for a call. -/
theorem Service.Handles.confined_handle
    (hcalls : ∀ request, expected ⟨.wait, .future (service.call request)⟩) (payload : Payload)
    (w : World) : (store.handle payload).Confined evolution expected w := by
  have hcall (request : StoreRequest) (w : World) :
      (awaiting (service.call request)).start.Confined evolution expected w :=
    ⟨hcalls request, fun _ _ _ => trivial⟩
  cases hrequest : StoreRequest.ofPayload payload with
  | ok request =>
    cases h with
    | named =>
      simp only [dbHandler, dbHandlerWith, hrequest]
      exact ⟨evolution.reported w [_], hcall request _⟩
    | given =>
      simp only [dbHandlerWith, hrequest]
      exact hcall request w
  | error failure =>
    obtain ⟨call, rfl, -⟩ := h.exists_call
    simp only [dbHandlerWith, hrequest]
    exact Run.confined_releasing (Run.confined_aborted failure _)

/-- Under the layer, a process does to the world what it does without. -/
theorem Service.Handles.confined
    (hcalls : ∀ request, expected ⟨.wait, .future (service.call request)⟩) {c : Process} {w : World}
    (hc : c.Confined evolution (fun command => command.kind = .db ∨ expected command) w) :
    (store.toLayer.apply c).Confined evolution expected w := by
  refine hc.frame ((Frame.confining_handled store fun _ => True).of_imp fun command hinside => ?_)
    ⟨rfl, fun later _ payload _ => h.confined_handle hcalls payload later⟩
  split
  · trivial
  · rename_i hpassed
    exact hinside.resolve_left fun hdb => hpassed (hdb.trans h.kind_eq.symm)

/-- What becomes of a `db` command in the layer. -/
theorem Service.Handles.settle_handledBy (w : World) (payload : Payload) (rest : Process) :
    ∃ rest' w', w'.stores = w.stores ∧
      w.settle ((Run.suspended .db payload rest).handledBy store) =
        match StoreRequest.ofPayload payload with
        | .ok request => (.suspended ⟨.wait, .future (service.call request)⟩ rest', w')
        | .error failure => (.failed failure rest', w') := by
  rw [Run.handledBy, if_pos h.kind_eq.symm]
  cases hrequest : StoreRequest.ofPayload payload with
  | ok request =>
    cases h with
    | named =>
      simp only [dbHandler, dbHandlerWith, hrequest]
      refine ⟨_, _, ?_, rfl⟩
      rfl
    | given =>
      simp only [dbHandlerWith, hrequest]
      refine ⟨_, _, ?_, rfl⟩
      rfl
  | error failure =>
    obtain ⟨call, rfl, -⟩ := h.exists_call
    simp only [dbHandlerWith, hrequest]
    cases payload.held with
    | nil =>
      refine ⟨_, _, ?_, rfl⟩
      rfl
    | cons claim claims =>
      refine ⟨_, _, ?_, rfl⟩
      exact World.stores_release _ _

/-- A driver without a bridge stops at the first `db` command: it does not know what to do with the
wait for the call, and if there is no request, it returns the failure to read it. -/
theorem Service.Handles.drive_of_reaches {p : Process} {w w' w₁ : World} {outer inner : Context}
    {focus : Run} {payload : Payload} {rest : Process}
    (hreaches : World.Reaches w p.start w' (outer ++ .handled store :: inner) focus)
    (hfocus : w'.settle focus = (.suspended ⟨.db, payload⟩ rest, w₁))
    (hinner : ∀ frame ∈ inner, frame.Admits .db) (houter : ∀ frame ∈ outer, frame.Admits .wait) :
    (w.carryOut p.drive).1 = .error (match StoreRequest.ofPayload payload with
      | .ok _ => .unhandledCommand "wait"
      | .error failure => failure) ∧
    (w.carryOut p.drive).2.stores = w₁.stores := by
  -- the command passes the frames inside the layer
  obtain ⟨rest', w₂, hstores, hlayer⟩ :=
    h.settle_handledBy (w₁.reported (inner.reports .db)) payload (inner.process rest)
  have hinside : w₁.settle (Context.run (.handled store :: inner) (.suspended .db payload rest)) =
      (w₁.reported (inner.reports .db)).settle
        ((Run.suspended .db payload (inner.process rest)).handledBy store) := by
    show w₁.settle ((Frame.handled store).run (inner.run _)) = _
    rw [Frame.settle_run, Context.settle_suspended hinner]
    rfl
  have hsettle : w.settle p.start = w₂.settle (outer.run
      (match StoreRequest.ofPayload payload with
        | .ok request => .suspended .wait (.future (service.call request)) rest'
        | .error failure => .failed failure rest')) := by
    rw [hreaches.settle_eq, Context.settle_run, hfocus]
    show w₁.settle (Context.run _ (.suspended .db payload rest)) = _
    rw [Context.run_append, Context.settle_run, hinside, hlayer]
    cases StoreRequest.ofPayload payload <;> rfl
  rw [Process.drive, World.carryOut_drive, hsettle]
  cases StoreRequest.ofPayload payload with
  | ok request =>
    dsimp only
    rw [Context.settle_suspended houter]
    refine ⟨rfl, ?_⟩
    show (World.release _ _).stores = _
    rw [World.stores_release]
    exact hstores
  | error failure =>
    dsimp only
    rw [Context.settle_failed]
    refine ⟨rfl, ?_⟩
    show (World.release _ _).stores = _
    rw [World.stores_release, World.stores_release]
    exact hstores

end

/-- **Commands for the store are called by the bridge, and by nobody else.** Let a service be given.

*Requests.* The payload of a `db` command carries its method and its arguments. A payload carries a
request if it is a value with a method.

*Under the bridge.* Let a process be in the layer for `db` commands. Whatever happens, its bridge
cannot be told apart from the operation that makes each call at the place of its command, and goes
on with the value of the call after that has settled. Driven in one piece, one call after the other,
the process has a conversation in which each `db` command is answered by its own call, and there
have been no other calls; a command without a request is answered with a failure. An answer that is
a failure is the last one, and the outcome. If the bridge can have all that it waits for, it comes
to this outcome after all pauses.

*Layers.* Nobody who advances or drives the process can tell a layer that is given the store from
one that is given the function that calls it.

*Without the bridge.* Whatever the process and the outer layers may do to the world, the layer does
nothing else to it, in any stack, after any advances and after the driver has returned. In
particular the stores stay as they are if nobody else touches them. What is seen is what the outer
layers let pass; the layer itself adds waits for calls, at most. If an advance comes to a `db`
command, wherever it is yielded, and the frames inside the layer leave it alone and the frames
outside leave waits alone, then the driver fails: with the unhandled wait if there is a request, and
otherwise with the failure to read it. -/
theorem db_commands_reach_store_through_bridge (service : Service) (c : Process) :
    ((∀ method args, StoreRequest.ofPayload (.value (StoreRequest.toValue ⟨method, args⟩)) =
        .ok ⟨method, args⟩) ∧
      ∀ payload, (∃ request, StoreRequest.ofPayload payload = .ok request) ↔
        ∃ v method, payload = .value v ∧ v.get? "method" = some (.str method)) ∧
    (∀ store, service.Handles store →
      let layered := store.toLayer.apply c
      ∀ (who : Party) (outcomes : Channel → Outcome) (m : Machine),
        (∀ happenings, Task.Same
          (after (Task.poll who) outcomes happenings (.ready layered.bridge.start, m))
          (after (Task.poll who) outcomes happenings (.ready (c.servedBy service .null), m))) ∧
        let driven := m.world.carryOut (c.driveWith (calling outcomes service) ([], []))
        let said := m.world.converse (calling outcomes service) ([], []) c
        Accounted driven.1.2.2 said.exchanges ∧
        (∀ before command failure after,
          said.exchanges = before ++ (command, .error failure) :: after →
          after = [] ∧ said.outcome = .error failure) ∧
        (layered.bridge.start.Available outcomes m.world →
          layered.bridge.start.ComesTo who outcomes m said.outcome (elapsed driven.1.2.1)
            driven.2)) ∧
    (∀ w : World,
      let named := (dbHandler service).toLayer.apply c
      let given := (dbHandlerWith fun request => .done (service.call request)).toLayer.apply c
      (∀ inputs, w.observe named inputs = w.observe given inputs ∧
        (w.steps named inputs).2.quiet = (w.steps given inputs).2.quiet) ∧
      (w.carryOut named.drive).1 = (w.carryOut given.drive).1 ∧
      (w.carryOut named.drive).2.quiet = (w.carryOut given.drive).2.quiet) ∧
    ∀ store, service.Handles store →
      (∀ (evolution : Evolution) (expected outside : Command → Prop) (outer : List Layer)
          (w : World), (∀ request, expected ⟨.wait, .future (service.call request)⟩) →
        c.Confined evolution (fun command => command.kind = .db ∨ expected command) w →
        (∀ p : Process, p.Confined evolution expected w →
          ((Stack.mk outer).interpret p).Confined evolution outside w) →
        let stacked := (Stack.mk (outer ++ [store.toLayer])).interpret c
        (∀ inputs, evolution.allows w (w.steps stacked inputs).2 ∧
          ∀ command rest, .suspended command rest ∈ (w.steps stacked inputs).1 →
            outside command) ∧
        evolution.allows w (w.carryOut stacked.drive).2) ∧
      (∀ w w', Evolution.storesKept.allows w w' ↔ w'.stores = w.stores) ∧
      ∀ (p : Process) (w w' w₁ : World) (outer inner : Context) (focus : Run) (payload : Payload)
        (rest : Process),
        World.Reaches w p.start w' (outer ++ .handled store :: inner) focus →
        w'.settle focus = (.suspended ⟨.db, payload⟩ rest, w₁) →
        (∀ frame ∈ inner, frame.Admits .db) → (∀ frame ∈ outer, frame.Admits .wait) →
        (w.carryOut p.drive).1 = .error (match StoreRequest.ofPayload payload with
          | .ok _ => .unhandledCommand "wait"
          | .error failure => failure) ∧
        (w.carryOut p.drive).2.stores = w₁.stores := by
  refine ⟨⟨fun method args => StoreRequest.ofPayload_toValue ⟨method, args⟩,
    StoreRequest.exists_ofPayload_iff⟩, fun store h => ?_, service.observed_alike c,
    fun store h => ⟨?_, fun w w' => Iff.rfl,
      fun p w w' w₁ outer inner focus payload rest => h.drive_of_reaches⟩⟩
  · intro layered who outcomes m
    have hstart : Task.Same (.ready layered.bridge.start, m)
      (.ready (c.servedBy service .null), m) := ⟨.ready (h.alike_bridge c), rfl⟩
    exact ⟨hstart.after who outcomes, m.world.accounted outcomes service c,
      m.world.failure_last _ _ c, h.comesTo c who⟩
  · intro evolution expected outside outer w hcalls hc houter stacked
    have hstacked : stacked.Confined evolution outside w := by
      have hinterpret : stacked = (Stack.mk outer).interpret (store.toLayer.apply c) :=
        List.foldr_append
      rw [hinterpret]
      exact houter _ (h.confined hcalls hc)
    exact ⟨hstacked.steps, hstacked.allows_drive⟩

/-- A record is loaded by the bridge, after a pause of five milliseconds. Without it the driver does
not know what to do with the wait, and a failure that is due stays due. -/
theorem load_with_and_without_bridge :
    let service : Service := ⟨"main", some 5, none⟩
    let layered (id : String) := (dbHandler service).toLayer.apply (load (.str id))
    let stores (failures : Nat) := [("main", Store.mk [("a", .str "1")] failures)]
    (∃ left, (layered "a").bridge.start.ComesTo .foreground (fun _ => .error .abandoned)
      { world := { stores := stores 0 } } (.ok (.str "1")) 5 left) ∧
    (({ stores := stores 2 } : World).carryOut (layered "a").drive).1 =
      .error (.unhandledCommand "wait") ∧
    (({ stores := stores 2 } : World).carryOut (layered "a").drive).2.stores = stores 2 := by
  intro service layered stores
  obtain ⟨-, hbridge, -, hstack⟩ :=
    db_commands_reach_store_through_bridge service (load (.str "a"))
  obtain ⟨-, -, -, hcomes⟩ := hbridge _ .named .foreground (fun _ => .error .abandoned)
    { world := { stores := stores 0 } }
  obtain ⟨hkept, -, hreached⟩ := hstack _ .named
  have hload : (load (.str "a")).Confined .storesKept
      (fun command => command.kind = .db ∨ True) { stores := stores 2 } :=
    fun _ _ _ => ⟨.inl rfl, fun _ _ _ => trivial⟩
  obtain ⟨-, hstores⟩ := hkept _ (fun _ => True) (fun _ => True) [] _ (fun _ => trivial) hload
    fun _ hp => hp
  obtain ⟨hunhandled, -⟩ := hreached (layered "a") { stores := stores 2 } _ _ [] [] _ _ _
    (.inside (.handled (dbHandler service)) (.here _ (load (.str "a")).start)) rfl nofun nofun
  exact ⟨⟨_, hcomes trivial⟩, hunhandled, hstores⟩

end Effects
