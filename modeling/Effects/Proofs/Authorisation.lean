import Effects.Alone
import Effects.Program.Request
import Effects.Proofs.Driving

/-!
# Who may load a record

A request is logged, its cookie is compared with the configured secret, and something more is asked
for only if the two are equal. Both request handlers are such a process, `Request.guarded`, and all
that follows is read off this one form.

A driver that answers the commands of a process has a `Conversation` with it. The conversation of a
request handler is `Request.Served`, whatever the answers are. A conversation in which the cookie is
rejected depends on nothing but the name of the request: it says nothing about the secret, the
record asked for, and the store.
-/

namespace Effects

/-! ## Conversations -/

/-- What a process and the one who answers it have said to each other. -/
structure Conversation where
  /-- The commands, in the order in which they were yielded, and what each was answered with. -/
  exchanges : List (Command × Outcome)
  /-- How the process has ended. -/
  outcome : Outcome

/-- The commands of a conversation. -/
def Conversation.commands (c : Conversation) : List Command := c.exchanges.map Prod.fst

/-- The second command has asked for the configuration, and this is the answer. -/
def Conversation.Configured (c : Conversation) (config : Value) : Prop :=
  c.exchanges[1]? = some (⟨.getConfig, .none⟩, .ok config)

namespace World

variable {σ : Type} (respond : Responder σ)

/-- What a driver and a process say to each other in a world. -/
def converse (w : World) (state : σ) (p : Process) : Conversation where
  exchanges := (w.carryOut (p.driveWith respond.recording (state, []))).1.2.2
  outcome := (w.carryOut (p.driveWith respond state)).1.1

/-- The conversation that comes after some earlier exchanges. -/
def converseFrom (w : World) (state : σ) (earlier : List (Command × Outcome)) (r : Run) :
    Conversation where
  exchanges := (w.carryOut (r.answeredBy respond.recording (state, earlier))).1.2.2
  outcome := (w.carryOut (r.answeredBy respond state)).1.1

theorem converse_paused (w : World) (state : σ) (held : List Claim) (resume : Value → Run) :
    w.converse respond state (.paused held resume) =
      w.converseFrom respond state [] (resume .null) := rfl

theorem converseFrom_ended (w : World) (state : σ) (earlier : List (Command × Outcome))
    (v : Value) : w.converseFrom respond state earlier (.ended v) = ⟨earlier, .ok v⟩ := by
  simp [converseFrom, Run.ended, Run.answeredBy]

/-- A command that is answered resumes the run, and a failure to answer it is the end. -/
theorem converseFrom_suspended (w : World) (state : σ) (earlier : List (Command × Outcome))
    (command : Command) (held : List Claim) (resume : Value → Run) :
    w.converseFrom respond state earlier
        (.suspended command.kind command.payload (.paused held resume)) =
      match w.carryOut (respond state command) with
      | ((.ok v, state'), w') =>
        w'.converseFrom respond state' (earlier ++ [(command, .ok v)]) (resume v)
      | ((.error failure, _), _) => ⟨earlier ++ [(command, .error failure)], .error failure⟩ := by
  rcases hanswer : w.carryOut (respond state command) with ⟨⟨answer, state'⟩, w'⟩
  cases answer with
  | ok v => simp [converseFrom, Run.answeredBy, Process.answeredBy, Responder.recording, hanswer]
  | error failure => simp [converseFrom, Run.answeredBy, Responder.recording, hanswer]

end World

namespace Program

/-- The configuration authorises a cookie: it is an object whose `secret` is this text. -/
def Authorised (cookie : String) (config : Value) : Prop :=
  ∃ fields, config = .obj fields ∧ Fields.get? fields "secret" = some (.str cookie)

theorem authorised_iff (cookie : String) (config : Value) :
    Authorised cookie config ↔ ((config.get? "secret").getD .null).asStr? = some cookie := by
  constructor
  · rintro ⟨fields, rfl, hsecret⟩
    simp only [Value.get?, hsecret, Option.getD_some, Value.asStr?]
  · intro h
    cases config with
    | obj fields =>
      refine ⟨fields, rfl, ?_⟩
      simp only [Value.get?] at h
      cases hsecret : Fields.get? fields "secret" with
      | none => simp [hsecret, Value.asStr?] at h
      | some secret =>
        cases secret with
        | str s =>
          rw [hsecret] at h
          obtain rfl : s = cookie := Option.some.inj h
          rfl
        | _ => simp [hsecret, Value.asStr?] at h
    | _ => simp [Value.get?, Value.asStr?] at h

instance (cookie : String) (config : Value) : Decidable (Authorised cookie config) :=
  decidable_of_iff _ (authorised_iff cookie config).symm

/-! ## Responses -/

theorem response_some (status : Nat) (body : Value) :
    response status (some body) =
      .obj [("body", body), ("status", .num (Decimal.ofInt status))] := by
  have horder : "body" < "status" := by decide
  simp only [response, Value.ofFields, Fields.ofList, List.foldl_cons, List.foldl_nil,
    Fields.insert, if_pos horder]

theorem get?_status_response (status : Nat) (body : Option Value) :
    (response status body).get? "status" = some (.num (Decimal.ofInt status)) := by
  cases body with
  | none => rfl
  | some body => rw [response_some]; rfl

theorem get?_body_response (status : Nat) (body : Option Value) :
    (response status body).get? "body" = body := by
  cases body with
  | none => rfl
  | some body => rw [response_some]; rfl

theorem rejected_ne_granted : Decimal.ofInt 400 ≠ Decimal.ofInt 200 := by
  intro heq
  have hbits : (Decimal.ofInt 400).toBits = (Decimal.ofInt 200).toBits := by rw [heq]
  exact absurd hbits (by decide)

namespace Request

/-- The command that logs a request. -/
def arrival (r : Request) : Command :=
  ⟨.log, .value (.list [.str "received request", .str r.id])⟩

/-- The command that asks for the configuration. -/
def configuring : Command := ⟨.getConfig, .none⟩

/-- The command that loads the record which a request names. -/
def loading (r : Request) : Command :=
  ⟨.db, .value (.ofFields [("method", .str "load"), ("args", .list [.str r.resourceId])])⟩

/-- The command that logs a success. -/
def announcing : Command := ⟨.log, .value (.list [.str "authenticated"])⟩

/-- Logs a request, compares its cookie with the configuration, and asks for one thing more if that
authorises the cookie. -/
def guarded (r : Request) (asked : Command) (answer : Value → Value) : Process :=
  .paused [] fun _ => .suspended .log r.arrival.payload <|
    .paused [] fun _ => .suspended .getConfig .none <|
      .paused [] fun config =>
        if Authorised r.cookie config then
          .suspended asked.kind asked.payload (.paused [] fun v => .ended (answer v))
        else .ended (response 400 none)

/-- What asks for one thing more after the cookie has been checked is guarded. -/
theorem checked_eq_guarded (r : Request) {asked : Command} {answer : Value → Value}
    {granted : Process} (hgranted : granted.start.dropAtEnd =
      .suspended asked.kind asked.payload (.paused [] fun v => .ended (answer v))) :
    (((received r).andAlso (validCookie r.cookie)).andThen fun valid =>
      if valid.asBool? = some true then .done granted else .done (.pure (response 400 none))) =
      r.guarded asked answer := by
  have hcheck (config : Value) :
      (if Authorised r.cookie config then
        .suspended asked.kind asked.payload (.paused [] fun v => .ended (answer v))
      else .ended (response 400 none)) =
      Run.ofPlan (if (Value.bool (((config.get? "secret").getD .null).asStr? =
          some r.cookie)).asBool? = some true then .done granted
        else .done (.pure (response 400 none))) fun second => second.start.dropAtEnd := by
    by_cases h : Authorised r.cookie config
    · have hsecret := (authorised_iff r.cookie config).mp h
      rw [if_pos h, if_pos (by simp [Value.asBool?, hsecret]), Run.ofPlan, hgranted]
    · have hsecret := mt (authorised_iff r.cookie config).mpr h
      rw [if_neg h, if_neg (by simp [Value.asBool?, hsecret])]
      rfl
  simp only [guarded, hcheck]
  rfl

theorem handleRequest_eq_guarded (r : Request) :
    handleRequest r = r.guarded r.loading fun record => response 200 (some record) :=
  r.checked_eq_guarded rfl

theorem handleRequestWithoutDb_eq_guarded (r : Request) :
    handleRequestWithoutDb r = r.guarded announcing fun _ => response 200 none :=
  r.checked_eq_guarded rfl

/-- The conversation of a request handler, which asks for one thing more after the check. -/
inductive Served (r : Request) (asked : Command) (answer : Value → Value) :
    Conversation → Prop where
  /-- The log entry could not be written. -/
  | unlogged (failure : Failure) :
    Served r asked answer ⟨[(r.arrival, .error failure)], .error failure⟩
  /-- There is no configuration. -/
  | unconfigured (logged : Value) (failure : Failure) :
    Served r asked answer
      ⟨[(r.arrival, .ok logged), (configuring, .error failure)], .error failure⟩
  /-- The cookie is not authorised, and nothing more is asked for. -/
  | rejected (logged : Value) {config : Value} (hrejected : ¬ Authorised r.cookie config) :
    Served r asked answer
      ⟨[(r.arrival, .ok logged), (configuring, .ok config)], .ok (response 400 none)⟩
  /-- The cookie is authorised, but what is asked for is not to be had. -/
  | unanswered (logged : Value) {config : Value} (hauthorised : Authorised r.cookie config)
    (failure : Failure) :
    Served r asked answer
      ⟨[(r.arrival, .ok logged), (configuring, .ok config), (asked, .error failure)],
        .error failure⟩
  /-- The cookie is authorised, and what is asked for is answered. -/
  | answered (logged : Value) {config : Value} (hauthorised : Authorised r.cookie config)
    (v : Value) :
    Served r asked answer
      ⟨[(r.arrival, .ok logged), (configuring, .ok config), (asked, .ok v)], .ok (answer v)⟩

theorem served_guarded (r : Request) (asked : Command) (answer : Value → Value) {σ : Type}
    (respond : Responder σ) (state : σ) (w : World) :
    r.Served asked answer (w.converse respond state (r.guarded asked answer)) := by
  have hconfigured (state : σ) (w : World) (logged config : Value) :
      r.Served asked answer
        (w.converseFrom respond state [(r.arrival, .ok logged), (configuring, .ok config)]
          (if Authorised r.cookie config then
            .suspended asked.kind asked.payload (.paused [] fun v => .ended (answer v))
          else .ended (response 400 none))) := by
    by_cases hauthorised : Authorised r.cookie config
    · rw [if_pos hauthorised, World.converseFrom_suspended]
      split
      · rw [World.converseFrom_ended]
        exact .answered logged hauthorised _
      · exact .unanswered logged hauthorised _
    · rw [if_neg hauthorised, World.converseFrom_ended]
      exact .rejected logged hauthorised
  have hlogged (state : σ) (w : World) (logged : Value) :
      r.Served asked answer
        (w.converseFrom respond state [(r.arrival, .ok logged)]
          (.suspended configuring.kind configuring.payload (.paused [] fun config =>
            if Authorised r.cookie config then
              .suspended asked.kind asked.payload (.paused [] fun v => .ended (answer v))
            else .ended (response 400 none)))) := by
    rw [World.converseFrom_suspended]
    split
    · exact hconfigured _ _ logged _
    · exact .unconfigured logged _
  rw [guarded, World.converse_paused]
  show r.Served asked answer
    (w.converseFrom respond state [] (.suspended r.arrival.kind r.arrival.payload _))
  rw [World.converseFrom_suspended]
  split
  · exact hlogged _ _ _
  · exact .unlogged _

section

variable (r : Request) {σ : Type} (respond : Responder σ) (state : σ) (w : World)

theorem served_handleRequest :
    r.Served r.loading (fun record => response 200 (some record))
      (w.converse respond state (handleRequest r)) := by
  rw [handleRequest_eq_guarded]
  exact r.served_guarded _ _ respond state w

theorem served_handleRequestWithoutDb :
    r.Served announcing (fun _ => response 200 none)
      (w.converse respond state (handleRequestWithoutDb r)) := by
  rw [handleRequestWithoutDb_eq_guarded]
  exact r.served_guarded _ _ respond state w

end

namespace Served

variable {r : Request} {asked : Command} {answer : Value → Value} {c : Conversation}
  {config v : Value}

theorem of_rejected (h : r.Served asked answer c) (hconfig : c.Configured config)
    (hrejected : ¬ Authorised r.cookie config) :
    c.commands = [r.arrival, configuring] ∧ c.outcome = .ok (response 400 none) := by
  cases h with
  | unlogged failure => cases hconfig
  | unconfigured logged failure => cases hconfig
  | rejected logged hother => exact ⟨rfl, rfl⟩
  | unanswered logged hauthorised failure => cases hconfig; exact (hrejected hauthorised).elim
  | answered logged hauthorised v => cases hconfig; exact (hrejected hauthorised).elim

theorem of_authorised (h : r.Served asked answer c) (hconfig : c.Configured config)
    (hauthorised : Authorised r.cookie config) :
    c.commands = [r.arrival, configuring, asked] ∧
      ∀ v, c.outcome = .ok v →
        ∃ answered, c.exchanges[2]? = some (asked, .ok answered) ∧ v = answer answered := by
  cases h with
  | unlogged failure => cases hconfig
  | unconfigured logged failure => cases hconfig
  | rejected logged hrejected => cases hconfig; exact (hrejected hauthorised).elim
  | unanswered logged hother failure => exact ⟨rfl, nofun⟩
  | answered logged hother answered =>
    exact ⟨rfl, fun v hok => ⟨answered, rfl, (Except.ok.inj hok).symm⟩⟩

theorem exists_configured (h : r.Served asked answer c) (hok : c.outcome = .ok v) :
    ∃ config, c.Configured config := by
  cases h with
  | unlogged failure => cases hok
  | unconfigured logged failure => cases hok
  | rejected logged hrejected => exact ⟨_, rfl⟩
  | unanswered logged hauthorised failure => cases hok
  | answered logged hauthorised answered => exact ⟨_, rfl⟩

/-- Something more is asked for if and only if the cookie is authorised. -/
theorem asked_mem_iff (h : r.Served asked answer c) (harrival : asked ≠ r.arrival)
    (hconfiguring : asked ≠ configuring) :
    asked ∈ c.commands ↔ ∃ config, c.Configured config ∧ Authorised r.cookie config := by
  constructor
  · intro hasked
    cases h with
    | unlogged failure => simp [Conversation.commands, harrival] at hasked
    | unconfigured logged failure =>
      simp [Conversation.commands, harrival, hconfiguring] at hasked
    | rejected logged hrejected => simp [Conversation.commands, harrival, hconfiguring] at hasked
    | unanswered logged hauthorised failure => exact ⟨_, rfl, hauthorised⟩
    | answered logged hauthorised answered => exact ⟨_, rfl, hauthorised⟩
  · rintro ⟨config, hconfig, hauthorised⟩
    rw [(h.of_authorised hconfig hauthorised).1]
    simp

/-- The status is 200 if the cookie is authorised and 400 if not. -/
theorem status_of_ok (h : r.Served asked answer c)
    (hanswer : ∀ answered, (answer answered).get? "status" = some (.num (Decimal.ofInt 200)))
    (hconfig : c.Configured config) (hok : c.outcome = .ok v) :
    v.get? "status" =
      some (.num (Decimal.ofInt (if Authorised r.cookie config then 200 else 400))) := by
  by_cases hauthorised : Authorised r.cookie config
  · obtain ⟨answered, -, rfl⟩ := (h.of_authorised hconfig hauthorised).2 v hok
    rw [hanswer, if_pos hauthorised]
  · rw [(h.of_rejected hconfig hauthorised).2] at hok
    obtain rfl := Except.ok.inj hok
    rw [get?_status_response, if_neg hauthorised]
    rfl

/-- A success is announced if and only if the status is 200. -/
theorem announced_iff (h : r.Served announcing (fun _ => response 200 none) c)
    (hok : c.outcome = .ok v) :
    announcing ∈ c.commands ↔ v.get? "status" = some (.num (Decimal.ofInt 200)) := by
  obtain ⟨config, hconfig⟩ := h.exists_configured hok
  rw [h.status_of_ok (fun _ => get?_status_response 200 none) hconfig hok]
  by_cases hauthorised : Authorised r.cookie config
  · rw [(h.of_authorised hconfig hauthorised).1, if_pos hauthorised]
    simp
  · rw [(h.of_rejected hconfig hauthorised).1, if_neg hauthorised]
    simp [arrival, announcing, configuring, Kind.log, Kind.getConfig, rejected_ne_granted]

end Served

end Request

/-! ## A stack without a leak -/

/-- The layers that serve requests: log entries are written, the configuration is a record, and the
innermost layer reaches the store. -/
def servingStack (sink : Sink) (record : Value) (store : Handler) : Stack :=
  ⟨[(logHandler sink).toLayer, (configHandler record).toLayer, store.toLayer]⟩

/-- What the layers do before the cookie has been checked. -/
def arriving (sink : Sink) (id : String) (checked : Operation) : Operation :=
  .reporting .trace "passing command through"
      [("kind", Kind.log.shown), ("handling", Kind.db.shown)] fun _ =>
    .reporting .trace "passing command through"
        [("kind", Kind.log.shown), ("handling", Kind.getConfig.shown)] fun _ =>
      .reporting .trace "dispatching command to handler" [("kind", Kind.log.shown)] fun _ =>
        .act (sink.write [.str "received request", .str id]) fun _ =>
          .reporting .trace "passing command through"
              [("kind", Kind.getConfig.shown), ("handling", Kind.db.shown)] fun _ =>
            .reporting .trace "dispatching command to handler" [("kind", Kind.getConfig.shown)]
              fun _ => checked

theorem bridge_guarded (r : Request) {asked : Command} {answer : Value → Value} (sink : Sink)
    (record : Value) {store : Handler} (hstore : store.kind = .db) :
    ((servingStack sink record store).interpret (r.guarded asked answer)).bridge.start =
      arriving sink r.id
        (Run.handledBy (logHandler sink) (Run.handledBy (configHandler record) (Run.handledBy store
          (if Authorised r.cookie record then
            .suspended asked.kind asked.payload (.paused [] fun v => .ended (answer v))
          else .ended (response 400 none))))).awaited := by
  obtain ⟨kind, handle⟩ := store
  obtain rfl : kind = .db := hstore
  rfl

/-- What a request with a rejected cookie does says nothing but its name. -/
theorem bridge_handleRequest_of_rejected (r : Request) (sink : Sink) {record : Value}
    {store : Handler} (hstore : store.kind = .db) (hrejected : ¬ Authorised r.cookie record) :
    ((servingStack sink record store).interpret (handleRequest r)).bridge.start =
      arriving sink r.id (.settled (.ok (response 400 none))) := by
  rw [r.handleRequest_eq_guarded, bridge_guarded r sink record hstore, if_neg hrejected]
  rfl

section

variable (sink : Sink) (id : String) (outcome : Outcome) (w : World)

theorem alone_arriving :
    ((arriving sink id (.settled outcome)).alone w).outcome = outcome ∧
      ((arriving sink id (.settled outcome)).alone w).world.stores = w.stores := by
  cases sink <;> exact ⟨rfl, rfl⟩

/-- Whatever the stores hold, the same happens. -/
theorem alone_arriving_stores (stores : List (String × Store)) :
    (arriving sink id (.settled outcome)).alone { w with stores := stores } =
      { (arriving sink id (.settled outcome)).alone w with
        world := { ((arriving sink id (.settled outcome)).alone w).world with
          stores := stores } } := by
  cases sink <;> rfl

end

/-- A request handler asks for the record exactly if the configured secret is the cookie, and tells
nothing if it is not.

The conversation of a driver with a handler, whatever the answers are, is that of `Request.Served`:
a log entry, the configuration, and then the record if and only if the cookie is authorised. Two
conversations about requests of one name, in both of which the cookie is rejected, are the same,
whatever the secrets, the records and the stores are, and the store is never called. The handler
that loads nothing returns the same status, and logs its success exactly if this status is 200. In a
stack that serves requests, all requests of one name with a rejected cookie are the same operation,
which leaves the stores alone. -/
theorem request_authorises_exactly_the_secret (r r' : Request) {σ σ' : Type}
    (respond : Responder σ) (respond' : Responder σ') (state : σ) (state' : σ') (w w' : World) :
    let c := w.converse respond state (handleRequest r)
    let c' := w'.converse respond' state' (handleRequest r')
    let checked := w'.converse respond' state' (handleRequestWithoutDb r)
    (r.Served r.loading (fun record => response 200 (some record)) c ∧
      (r.loading ∈ c.commands ↔ ∃ config, c.Configured config ∧ Authorised r.cookie config) ∧
      ∀ status body, (response status body).get? "status" = some (.num (Decimal.ofInt status)) ∧
        (response status body).get? "body" = body) ∧
    (∀ config config', r'.id = r.id →
      c.Configured config → ¬ Authorised r.cookie config →
      c'.Configured config' → ¬ Authorised r'.cookie config' →
      c'.commands = c.commands ∧ c'.outcome = c.outcome ∧
        ∀ command ∈ c.commands, command.kind ≠ .db) ∧
    (r.Served Request.announcing (fun _ => response 200 none) checked ∧
      (∀ config v v', c.Configured config → c.outcome = .ok v →
        checked.Configured config → checked.outcome = .ok v' →
        v'.get? "status" = v.get? "status") ∧
      ∀ v, checked.outcome = .ok v →
        (Request.announcing ∈ checked.commands ↔
          v.get? "status" = some (.num (Decimal.ofInt 200)))) ∧
    ∀ (sink : Sink) (record record' : Value) (store store' : Handler), r'.id = r.id →
      store.kind = .db → ¬ Authorised r.cookie record →
      store'.kind = .db → ¬ Authorised r'.cookie record' →
      let op := ((servingStack sink record store).interpret (handleRequest r)).bridge.start
      let op' := ((servingStack sink record' store').interpret (handleRequest r')).bridge.start
      op' = op ∧ (op.alone w).outcome = .ok (response 400 none) ∧
        (op.alone w).world.stores = w.stores ∧
        ∀ stores, op.alone { w with stores := stores } =
          { op.alone w with world := { (op.alone w).world with stores := stores } } := by
  intro c c' checked
  have hserved := r.served_handleRequest respond state w
  have hserved' := r'.served_handleRequest respond' state' w'
  have hchecked := r.served_handleRequestWithoutDb respond' state' w'
  have harrival : r.loading ≠ r.arrival := by
    simp [Request.loading, Request.arrival, Kind.db, Kind.log]
  have hconfiguring : r.loading ≠ Request.configuring := by
    simp [Request.loading, Request.configuring]
  refine ⟨⟨hserved, hserved.asked_mem_iff harrival hconfiguring, fun status body =>
      ⟨get?_status_response status body, get?_body_response status body⟩⟩, ?_,
    ⟨hchecked, ?_, fun _ => hchecked.announced_iff⟩, ?_⟩
  · intro config config' hid hconfig hrejected hconfig' hrejected'
    obtain ⟨hcommands, houtcome⟩ := hserved.of_rejected hconfig hrejected
    obtain ⟨hcommands', houtcome'⟩ := hserved'.of_rejected hconfig' hrejected'
    have hname : r'.arrival = r.arrival := by rw [Request.arrival, hid]; rfl
    refine ⟨by rw [hcommands, hcommands', hname], houtcome'.trans houtcome.symm, ?_⟩
    rw [hcommands]
    simp [Request.arrival, Request.configuring, Kind.db, Kind.log, Kind.getConfig]
  · intro config v v' hconfig hok hconfig' hok'
    rw [hserved.status_of_ok (fun _ => get?_status_response 200 _) hconfig hok,
      hchecked.status_of_ok (fun _ => get?_status_response 200 none) hconfig' hok']
  · intro sink record record' store store' hid hstore hrejected hstore' hrejected' op op'
    have hop : op = arriving sink r.id (.settled (.ok (response 400 none))) :=
      bridge_handleRequest_of_rejected r sink hstore hrejected
    have hop' : op' = arriving sink r'.id (.settled (.ok (response 400 none))) :=
      bridge_handleRequest_of_rejected r' sink hstore' hrejected'
    obtain ⟨houtcome, hstores⟩ := alone_arriving sink r.id (.ok (response 400 none)) w
    rw [hop', hop, hid]
    exact ⟨rfl, houtcome, hstores, alone_arriving_stores sink r.id _ w⟩

/-- Answers every `getConfig` with a secret, and everything else with `null`. -/
def knowing (secret : Value) : Responder Unit := fun state command =>
  .done (.ok (if command.kind = .getConfig then .ofFields [("secret", secret)] else .null), state)

/-- A wrong cookie and one that meets a secret that is no text are the same to everyone, and a right
one is served with or without a store. -/
theorem request_of_wrong_cookies_and_a_right_one :
    (∃ c c', c = ({} : World).converse (knowing (.str "S")) () (handleRequest ⟨"R", "W", "a"⟩) ∧
      c' = ({} : World).converse (knowing .null) () (handleRequest ⟨"R", "", "b"⟩) ∧
      c.Configured (.ofFields [("secret", .str "S")]) ∧
      c'.Configured (.ofFields [("secret", .null)]) ∧
      (¬ Authorised "W" (.ofFields [("secret", .str "S")]) ∧
        ¬ Authorised "" (.ofFields [("secret", .null)])) ∧
      c'.commands = c.commands ∧ c'.outcome = c.outcome ∧
      ∀ command ∈ c.commands, command.kind ≠ .db) ∧
    ((servingStack .events (.ofFields [("secret", .null)])
        (dbHandler ⟨"old", some 5, none⟩)).interpret (handleRequest ⟨"R", "", "b"⟩)).bridge.start =
      ((servingStack .events (.ofFields [("secret", .str "S")])
        (dbHandler ⟨"new", none, none⟩)).interpret (handleRequest ⟨"R", "W", "a"⟩)).bridge.start ∧
    ∃ c checked, c = ({} : World).converse (knowing (.str "S")) () (handleRequest ⟨"R", "S", "a"⟩) ∧
      checked =
        ({} : World).converse (knowing (.str "S")) () (handleRequestWithoutDb ⟨"R", "S", "a"⟩) ∧
      c.Configured (.ofFields [("secret", .str "S")]) ∧
      checked.Configured (.ofFields [("secret", .str "S")]) ∧
      ∃ v v', c.outcome = .ok v ∧ checked.outcome = .ok v' ∧ v'.get? "status" = v.get? "status" ∧
        Request.loading ⟨"R", "S", "a"⟩ ∈ c.commands := by
  have hwrong : ¬ Authorised "W" (.ofFields [("secret", .str "S")]) := by decide
  have hnull : ¬ Authorised "" (.ofFields [("secret", .null)]) := by decide
  have hright : Authorised "S" (.ofFields [("secret", .str "S")]) := by decide
  obtain ⟨-, hsame, -, hstack⟩ :=
    request_authorises_exactly_the_secret ⟨"R", "W", "a"⟩ ⟨"R", "", "b"⟩
      (knowing (.str "S")) (knowing .null) () () {} {}
  obtain ⟨⟨-, hloaded, -⟩, -, ⟨-, hstatus, -⟩, -⟩ :=
    request_authorises_exactly_the_secret ⟨"R", "S", "a"⟩ ⟨"R", "S", "a"⟩
      (knowing (.str "S")) (knowing (.str "S")) () () {} {}
  refine ⟨⟨_, _, rfl, rfl, rfl, rfl, ⟨hwrong, hnull⟩, hsame _ _ rfl rfl hwrong rfl hnull⟩,
    (hstack .events _ _ _ _ rfl rfl hwrong rfl hnull).1, ?_⟩
  exact ⟨_, _, rfl, rfl, rfl, rfl, _, _, rfl, rfl, hstatus _ _ _ rfl rfl rfl rfl,
    hloaded.mpr ⟨_, rfl, hright⟩⟩

end Program

end Effects
