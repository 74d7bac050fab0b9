import Effects.Driver

/-!
# Record stores

The `db` command and the store behind it. A `Store` is the data: records by identifier and a number
of calls that are still to fail. A `Service` is a way to reach a store, with its latency and its
retries; calling it is an operation. The layer for `db` does not wait for the store itself: it turns
each command into a `wait` for the call, which a driver outside has to serve.
-/

namespace Effects

/-- Records by identifier. -/
structure Store where
  /-- The records, by identifier. -/
  records : Fields Value := []
  /-- How many calls are still to fail. -/
  failures : Nat := 0

namespace Store

/-- A store that holds a record of `id` and `payload` for each seed; of two seeds with one
identifier the later one counts. -/
def seeded (seeds : List (String × Value)) : Store where
  records := .ofList (seeds.map fun seed =>
    (seed.1, .ofFields [("id", .str seed.1), ("payload", seed.2)]))

/-- The number of records. -/
def size (s : Store) : Nat := s.records.length

/-- Whether there are no records. -/
def isEmpty (s : Store) : Bool := s.records.isEmpty

/-- The identifier that a request is about: its first argument. -/
def identifier (request : StoreRequest) : Except Failure String :=
  match request.args.head?.bind Value.asStr? with
  | some id => .ok id
  | none => .error (.handler "db" (request.method ++ " needs a string id"))

/-- Executes a request. A request that cannot be understood changes nothing. -/
def execute (s : Store) (request : StoreRequest) : Outcome × Store :=
  match request.method with
  | "load" =>
    match identifier request with
    | .ok id => (.ok ((s.records.get? id).getD .null), s)
    | .error failure => (.error failure, s)
  | "save" =>
    match identifier request with
    | .ok id =>
      let record := request.args[1]?.getD .null
      (.ok record, { s with records := s.records.insert id record })
    | .error failure => (.error failure, s)
  | "delete" =>
    match identifier request with
    | .ok id => (.ok (.bool (s.records.get? id).isSome), { s with records := s.records.erase id })
    | .error failure => (.error failure, s)
  | "list" => (.ok (.list (s.records.names.map .str)), s)
  | other => (.error (.handler "db" ("unknown method '" ++ other ++ "'")), s)

/-- One attempt to execute a request: it fails if a failure is due, which uses the failure up. -/
def attempt (s : Store) (request : StoreRequest) : Outcome × Store :=
  match s.failures with
  | 0 => s.execute request
  | n + 1 =>
    (.error (.handler "db" (request.method ++ " failed: store unavailable")),
      { s with failures := n })

end Store

/-- How often a failed call is repeated. -/
structure Retry where
  /-- The number of attempts, the first one included; less than one counts as one. -/
  attempts : Nat
  /-- The pause after the first attempt, in milliseconds; after the `n`-th it is `n` times as long.
  -/
  backoff : Nat

/-- A way to reach a store. -/
structure Service where
  /-- The store that is reached. -/
  store : String
  /-- The pause before each attempt, in milliseconds, if there is one. -/
  latency : Option Nat
  /-- How failed calls are repeated, if they are. -/
  retry : Option Retry

namespace Service

/-- One attempt: the latency, then the execution. -/
def once (s : Service) (request : StoreRequest) : Operation :=
  let execution : Operation := .act (.attempt s.store request) .settled
  match s.latency with
  | some ms => .sleep ms [] execution
  | none => execution

/-- Repeats an attempt, of which `left` more may follow the attempt with the given number. -/
def retrying (s : Service) (request : StoreRequest) (backoff : Nat) :
    (left : Nat) → (number : Nat) → Operation
  | 0, _ => s.once request
  | left + 1, number =>
    (s.once request).andThen [] fun
      | .ok value => .settled (.ok value)
      | .error failure =>
        .reporting .warn "store call failed, retrying"
          [("method", request.method), ("attempt", toString number), ("error", failure.message)]
          fun _ => .sleep (backoff * number) [] (s.retrying request backoff left (number + 1))

/-- Calls a store. -/
def call (s : Service) (request : StoreRequest) : Pending :=
  match s.retry with
  | none => ⟨[], s.once request⟩
  | some retry => ⟨[], s.retrying request retry.backoff (retry.attempts - 1) 1⟩

end Service

/-! ## The `db` command -/

namespace StoreRequest

/-- The value that carries a request. -/
def toValue (r : StoreRequest) : Value :=
  .ofFields [("method", .str r.method), ("args", .list r.args)]

/-- The request that a value carries. It needs a method; without a list of arguments it has none. -/
def ofValue (v : Value) : Except Failure StoreRequest :=
  match (v.get? "method").bind Value.asStr? with
  | some method => .ok ⟨method, ((v.get? "args").bind Value.asList?).getD []⟩
  | none => .error (.handler "db" "request has no method")

/-- The request that a payload carries. -/
def ofPayload (payload : Payload) : Except Failure StoreRequest :=
  (payload.toValue .db).bind ofValue

end StoreRequest

/-- Requests a call of the store. -/
def db (method : String) (args : List Value) : Process :=
  .perform .db (.value (StoreRequest.toValue ⟨method, args⟩))

/-- Requests the record with an identifier. -/
def load (id : Value) : Process := db "load" [id]

/-- Answers `db` commands by waiting for what `call` starts. -/
def dbHandlerWith (call : StoreRequest → Plan Pending) : Handler where
  kind := .db
  handle payload :=
    match StoreRequest.ofPayload payload with
    | .ok request => .ofPlan (call request) fun pending => (awaiting pending).start
    | .error failure => .releasing payload.held fun _ => .aborted failure

/-- Answers `db` commands by waiting for calls of a store. -/
def dbHandler (service : Service) : Handler :=
  dbHandlerWith fun request =>
    (Plan.report .debug "calling store" [("method", request.method)]).bind fun _ =>
      .done (service.call request)

end Effects
