import Effects.CommandLine.Execution
import Effects.Proofs.Authorisation
import Effects.Proofs.Transcript

/-!
# Instrumented handlers

An instrumented handler asks for a log entry after each command that it answers, and changes nothing
else. For the observer of a process this is what the transcripts of the handler say. The program
that serves requests reaches its store through such a handler, if it is told to: then nothing but
reports and log entries is added to what it does, so it ends in the same way.
-/

namespace Effects

/-! ## Requests with and without instrumentation -/

/-- Two endings with the same outcome, which leave the stores in the same state. -/
def Ending.Same (e e' : Ending) : Prop :=
  e.outcome = e'.outcome ∧ e.world.stores = e'.world.stores

theorem World.stores_eq_of_quiet_eq {w w' : World} (h : w.quiet = w'.quiet) :
    w.stores = w'.stores := by
  obtain ⟨events, rfl, -⟩ := eq_of_quiet_eq h
  rfl

theorem World.stores_release (w : World) (claims : List Claim) :
    (w.release claims).stores = w.stores := by
  have hbare := congrArg World.stores (w.bare_release claims)
  exact hbare

namespace Operation

/-- An operation that goes on in two ways ends in the same way, if the two make the same of every
outcome. -/
theorem same_andThen {held held' : List Claim} {next next' : Outcome → Operation}
    (hnext : ∀ outcome elapsed (w w' : World), w.stores = w'.stores →
      ((next outcome).aloneFrom elapsed w).Same ((next' outcome).aloneFrom elapsed w'))
    (op : Operation) (elapsed : Nat) {w w' : World} (hw : w.quiet = w'.quiet) :
    ((op.andThen held next).aloneFrom elapsed w).Same
      ((op.andThen held' next').aloneFrom elapsed w') := by
  induction op generalizing elapsed w w' with
  | settled outcome => exact hnext outcome elapsed w w' (World.stores_eq_of_quiet_eq hw)
  | act a rest ih =>
    obtain ⟨hanswer, hworld⟩ := World.quiet_perform hw a
    show (((rest (w.perform a).1).andThen held next).aloneFrom elapsed (w.perform a).2).Same
      (((rest (w'.perform a).1).andThen held' next').aloneFrom elapsed (w'.perform a).2)
    rw [hanswer]
    exact ih _ elapsed hworld
  | sleep ms own rest ih => exact ih (elapsed + ms) hw
  | receive channel own rest ih =>
    have hchannel : w.channelState channel = w'.channelState channel := by
      obtain ⟨events, rfl, -⟩ := World.eq_of_quiet_eq hw
      rfl
    rw [andThen, andThen, aloneFrom, aloneFrom, hchannel]
    split
    · exact ih _ elapsed hw
    · refine ⟨rfl, ?_⟩
      show (w.release _).stores = (w'.release _).stores
      rw [World.stores_release, World.stores_release, World.stores_eq_of_quiet_eq hw]

/-- The operation waits for a call, and ends with what is made of its outcome. Before the call there
are only reports. -/
def Relays (op call : Operation) (answer : Value → Value) : Prop :=
  ∃ (events : List Event) (held : List Claim) (next : Outcome → Operation),
    op = events.foldr (fun event rest => .act (.report event) fun _ => rest)
      (call.andThen held next) ∧
    (∀ event ∈ events, event.isLog = false) ∧
    (∀ v elapsed w,
      ((next (.ok v)).aloneFrom elapsed w).Same ⟨.ok (answer v), w, elapsed⟩) ∧
    ∀ failure elapsed w,
      ((next (.error failure)).aloneFrom elapsed w).Same
        ⟨.error (.asyncFailure failure), w, elapsed⟩

theorem aloneFrom_reports (events : List Event) (op : Operation) (elapsed : Nat) (w : World) :
    (events.foldr (fun event rest => Operation.act (.report event) fun _ => rest) op).aloneFrom
      elapsed w = op.aloneFrom elapsed (w.reported events) := by
  induction events generalizing w with
  | nil => rw [World.reported_nil]; rfl
  | cons event events ih =>
    rw [show event :: events = [event] ++ events from rfl, World.reported_append, ← ih]
    rfl

theorem Relays.same {op op' call : Operation} {answer : Value → Value} (h : op.Relays call answer)
    (h' : op'.Relays call answer) (elapsed : Nat) (w : World) :
    (op.aloneFrom elapsed w).Same (op'.aloneFrom elapsed w) := by
  obtain ⟨events, held, next, rfl, hevents, hok, herror⟩ := h
  obtain ⟨events', held', next', rfl, hevents', hok', herror'⟩ := h'
  rw [aloneFrom_reports, aloneFrom_reports]
  refine same_andThen (fun outcome elapsed w w' hw => ?_) call elapsed
    ((w.quiet_reported hevents).trans (w.quiet_reported hevents').symm)
  cases outcome with
  | ok v =>
    obtain ⟨houtcome, hstores⟩ := hok v elapsed w
    obtain ⟨houtcome', hstores'⟩ := hok' v elapsed w'
    exact ⟨houtcome.trans houtcome'.symm, hstores.trans (hw.trans hstores'.symm)⟩
  | error failure =>
    obtain ⟨houtcome, hstores⟩ := herror failure elapsed w
    obtain ⟨houtcome', hstores'⟩ := herror' failure elapsed w'
    exact ⟨houtcome.trans houtcome'.symm, hstores.trans (hw.trans hstores'.symm)⟩

end Operation

namespace Program

/-- What the layers around a handler of `db` commands make of a request for a record. -/
def loadingUnder (r : Request) (sink : Sink) (record : Value) (store : Handler) : Operation :=
  (Run.handledBy (logHandler sink) (Run.handledBy (configHandler record) (Run.handledBy store
    (.suspended r.loading.kind r.loading.payload
      (.paused [] fun v => .ended (response 200 (some v))))))).awaited

/-- What is reported before the store is called for a request. -/
def loadingReports : List Event :=
  [⟨.trace, "dispatching command to handler", [("kind", "db")], false⟩,
    ⟨.debug, "calling store", [("method", "load")], false⟩,
    ⟨.trace, "handler suspended", [("kind", "wait"), ("handling", "db")], false⟩,
    ⟨.trace, "passing command through", [("kind", "wait"), ("handling", "getConfig")], false⟩,
    ⟨.trace, "passing command through", [("kind", "wait"), ("handling", "log")], false⟩,
    ⟨.debug, "awaiting pending operation", [], false⟩]

theorem ofPayload_loading (r : Request) :
    StoreRequest.ofPayload r.loading.payload = .ok ⟨"load", [.str r.resourceId]⟩ := by
  have horder : "args" < "method" := by decide
  have hfields : Value.ofFields [("method", .str "load"), ("args", .list [.str r.resourceId])] =
      .obj [("args", .list [.str r.resourceId]), ("method", .str "load")] := by
    simp only [Value.ofFields, Fields.ofList, List.foldl_cons, List.foldl_nil, Fields.insert,
      if_pos horder]
  show StoreRequest.ofValue (.ofFields _) = _
  rw [hfields]
  rfl

theorem handle_db (r : Request) (service : Service) :
    (dbHandler service).handle r.loading.payload =
      .reporting .debug "calling store" [("method", "load")] fun _ =>
        (awaiting (service.call ⟨"load", [.str r.resourceId]⟩)).start := by
  simp only [dbHandler, dbHandlerWith, ofPayload_loading]
  rfl

/-- A request is served after its store has been called, and a log entry about the call makes no
difference to that. -/
theorem relays_call (r : Request) (record : Value) (service : Service) :
    (loadingUnder r .events record (dbHandler service)).Relays
        (service.call ⟨"load", [.str r.resourceId]⟩).start (fun v => response 200 (some v)) ∧
      (loadingUnder r .events record (instrumentedDbHandler service)).Relays
        (service.call ⟨"load", [.str r.resourceId]⟩).start (fun v => response 200 (some v)) := by
  have hserved (store : Handler) (hkind : store.kind = .db) :
      loadingUnder r .events record store =
        (Run.handledBy (logHandler .events) (Run.handledBy (configHandler record)
          (.reporting .trace "dispatching command to handler" [("kind", "db")] fun _ =>
            .serving .db (Process.handledBy store
              (.paused [] fun v => .ended (response 200 (some v))))
              (store.handle r.loading.payload)))).awaited := by
    obtain ⟨kind, handle⟩ := store
    obtain rfl : kind = .db := hkind
    rfl
  constructor
  · rw [hserved _ rfl, handle_db]
    exact ⟨loadingReports, [], _, rfl, by decide, fun v elapsed w => ⟨rfl, rfl⟩,
      fun failure elapsed w => ⟨rfl, rfl⟩⟩
  · rw [hserved _ rfl]
    let input := r.loading.payload.asValue?.getD .null
    have hhandle : (instrumentedDbHandler service).handle r.loading.payload =
        ((dbHandler service).handle r.loading.payload).andThenHolding [] fun output =>
          .done ((log (describeCall input output)).map fun _ => .done output) := rfl
    rw [hhandle, handle_db]
    exact ⟨loadingReports, [], _, rfl, by decide, fun v elapsed w => ⟨rfl, rfl⟩,
      fun failure elapsed w => ⟨rfl, rfl⟩⟩

/-- What comes after the check of the cookie starts in a world that does not depend on it. -/
theorem exists_alone_arriving (id : String) (w : World) :
    ∃ w' : World, ∀ checked : Operation,
      (arriving .events id checked).alone w = checked.aloneFrom 0 w' :=
  ⟨_, fun _ => rfl⟩

end Program

/-- A request is answered in the same way with instrumentation and without. -/
theorem CommandLine.Job.same_instrumented (config : Config) (freshId cookie id : String)
    (requestId : Option String) :
    ((Job.request cookie id requestId true).run config freshId).Same
      ((Job.request cookie id requestId false).run config freshId) := by
  let r : Program.Request := ⟨requestId.getD freshId, cookie, id⟩
  let service := config.service storeName
  let w : World := { stores := [(storeName, config.storeData)] }
  have hplain : (Job.request cookie id requestId false).run config freshId =
      ((Program.servingStack .events config.record (dbHandler service)).interpret
        (Program.handleRequest r)).bridge.start.alone w := rfl
  have hinstrumented : (Job.request cookie id requestId true).run config freshId =
      ((Program.servingStack .events config.record (instrumentedDbHandler service)).interpret
        (Program.handleRequest r)).bridge.start.alone w := rfl
  obtain ⟨w', harriving⟩ := Program.exists_alone_arriving r.id w
  rw [hplain, hinstrumented, r.handleRequest_eq_guarded, Program.bridge_guarded r _ _ rfl,
    Program.bridge_guarded r _ _ rfl, harriving, harriving]
  by_cases hauthorised : Program.Authorised r.cookie config.record
  · rw [if_pos hauthorised]
    obtain ⟨hdb, hinstrumentedDb⟩ := Program.relays_call r config.record service
    exact hinstrumentedDb.same hdb 0 w'
  · rw [if_neg hauthorised]
    exact ⟨rfl, rfl⟩

/-- Instrumenting a handler is transparent. Whatever the commands outside are answered with, an
observer sees the same with and without it, except that after every command that the handler answers
there is one log command, about the input of that command and the value with which the process goes
on. Whatever this log command is answered with, the end is the same. There is nothing else to be
seen: all that an instrumented handler shows is the beginning of such a transcript. So a request is
answered alike with instrumentation and without, and the stores are left in the same state. -/
theorem instrument_transparent :
    (∀ (h : Handler) (describe : Value → Value → List Value) (c : Process) (w : World)
      (first : Value),
      let plain := h.toLayer.apply c
      let instrumented := (h.instrument describe).toLayer.apply c
      (∀ answers replies,
        let t := (c.advance first).transcript h w answers replies
        Observed.upToEnd (w.observe plain (first :: answers)) = t.plain ∧
          Observed.upToEnd (w.observe instrumented
            (first :: t.exchanges.map Exchange.answer)) = t.described describe) ∧
      ∀ inputs, ∃ answers replies, Observed.upToEnd (w.observe instrumented (first :: inputs)) <+:
        ((c.advance first).transcript h w answers replies).described describe) ∧
    ∀ (config : Config) (freshId cookie id : String) (requestId : Option String),
      ((CommandLine.Job.request cookie id requestId true).run config freshId).Same
        ((CommandLine.Job.request cookie id requestId false).run config freshId) := by
  refine ⟨fun h describe c w first => ?_, CommandLine.Job.same_instrumented⟩
  intro plain instrumented
  have hplain (answers : List Value) : Observed.upToEnd (w.observe plain (first :: answers)) =
      (((c.advance first).delegating h fun _ _ next => next).dialogue w answers).observed := by
    have halike : plain.Alike (c.delegating h fun _ _ next => next) :=
      c.alike_handledBy_delegating h
    rw [World.observe_alike halike (rfl : w.quiet = w.quiet), World.observe_eq_dialogue,
      Process.advance_delegating]
  have hinstrumented (inputs : List Value) :
      Observed.upToEnd (w.observe instrumented (first :: inputs)) =
        (((c.advance first).delegating h (Run.describing describe)).dialogue w
          inputs).observed := by
    have halike : instrumented.Alike (c.delegating h (Run.describing describe)) :=
      c.alike_instrument_delegating h describe
    rw [World.observe_alike halike (rfl : w.quiet = w.quiet), World.observe_eq_dialogue,
      Process.advance_delegating]
  refine ⟨fun answers replies => ⟨?_, ?_⟩, fun inputs => ?_⟩
  · rw [hplain, Run.observed_delegating h (c.advance first) w answers replies]
  · rw [hinstrumented, Run.observed_delegating_describing]
  · rw [hinstrumented]
    exact Run.exists_observed_prefix h describe (c.advance first) w inputs

end Effects
