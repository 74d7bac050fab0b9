import Effects.Capture
import Effects.Instrument
import Effects.Program.Product
import Effects.Program.Request
import Effects.Script.Expr

/-!
# Blueprints

Processes, operations and layers as data. A blueprint is built in an environment of values and
tokens; building is a plan, since it can mint tokens, take deferred operations and note texts. Parts
that lie behind a value or a token are built when that value or token arrives.
-/

namespace Effects.Script

/-- How a command's kind is named. -/
inductive KindName where
  /-- A named effect. -/
  | tag (name : String)
  /-- The escape known under a name. -/
  | escape (name : String)

/-- What a handler is given of a payload. -/
inductive Reading where
  /-- The value; another payload is a failure. -/
  | value
  /-- The value if there is one, otherwise `null`. -/
  | valueOrNull
  /-- The value of the operation, which is waited for. -/
  | future
  /-- The outcome of the body, which is run in a scope of its own. -/
  | body

mutual

/-- The plan of a process. -/
inductive Blueprint where
  | pure (v : Expr)
  | fail (e : FailureExpr)
  | perform (k : KindName) (p : Parameter)
  | lazy (inner : Blueprint)
  | note (text : Expr) (inner : Blueprint)
  | bind (first : Blueprint) (name : String) (next : Blueprint)
  | map (inner : Blueprint) (name : String) (f : Expr)
  | both (first second : Blueprint)
  | seq (parts : List Blueprint)
  | cond (c : Expr) (yes no : Blueprint)
  | fold (items init : Expr) (acc item : String) (body : Blueprint)
  | repeated (n init : Expr) (i acc : String) (body : Blueprint)
  | loop (n init : Expr) (i acc : String) (body : Blueprint)
  | callCC (name : String) (body : Blueprint)
  | callCCCommand (name : String) (body : Blueprint)
  | exit (name : String) (v : Expr)
  | interpret (layers : List LayerPlan) (inner : Blueprint)
  | wait (f : FuturePlan)
  | log (entry : Expr)
  | logLine (text : Expr)
  | getConfig
  | configValue (key : String)
  | db (method args : Expr)
  | load (id : Expr)
  | product (xs : Expr) (inspected : Bool)
  | simpleCapture (early : Expr)
  | validCookie (cookie : Expr)
  | request (r : Expr) (withDb : Bool)

/-- The plan of a payload. -/
inductive Parameter where
  | none
  | value (v : Expr)
  | future (f : FuturePlan)
  | body (name : String) (b : Blueprint)

/-- The plan of an operation. -/
inductive FuturePlan where
  | ok (v : Expr)
  | err (e : FailureExpr)
  | sleep (ms : Expr) (next : FuturePlan)
  | note (text : Expr) (next : FuturePlan)
  | deferred (name : String)
  | call (service : String) (method args : Expr)
  | process (b : Blueprint)

/-- The plan of a layer. -/
inductive LayerPlan where
  | answer (k : KindName) (v : Expr)
  | handler (k : KindName) (name : String) (reading : Reading) (body : Blueprint)
  | instrument (k : KindName) (name : String) (reading : Reading) (body : Blueprint)
      (describe : Expr)
  | threaded (k : KindName) (init : Expr) (reading : Reading)
      (refusal : Option (Expr × FailureExpr)) (next reply finish : Expr)
  | logging (sink : String)
  | config (record : Expr)
  | db (service : String)
  | instrumentedDb (service : String)
  | dbWith (f : FuturePlan)
  | collect
  | callCC
  | identity
  | wrap (f : Expr)
  | stack (layers : List LayerPlan)

end

/-- What names mean where a blueprint is built. -/
structure Env where
  /-- The values of the variables, innermost first. -/
  values : List (String × Value) := []
  /-- The tokens of the escapes in scope, innermost first. -/
  escapes : List (String × Token) := []
  /-- The ways to reach the stores. -/
  services : List (String × Service) := []

namespace Env

/-- Gives a variable a value. -/
def bind (env : Env) (name : String) (v : Value) : Env :=
  { env with values := (name, v) :: env.values }

/-- Gives an escape a token. -/
def bindEscape (env : Env) (name : String) (token : Token) : Env :=
  { env with escapes := (name, token) :: env.escapes }

/-- The token of an escape: the one in scope, otherwise the one published last. -/
def token (env : Env) (name : String) : Plan (Option Token) :=
  match env.escapes.lookup name with
  | some token => .done (some token)
  | none => .act (.published name) .done

/-- The service with a name. -/
def service (env : Env) (name : String) : Service :=
  (env.services.lookup name).getD ⟨name, none, none⟩

end Env

/-- The kind that a name stands for. An escape that was never bound stands for its own name. -/
def KindName.resolve (env : Env) : KindName → Plan Kind
  | .tag name => .done (.tag name)
  | .escape name => do
    match ← env.token name with
    | some token => return .escape token
    | none => return .tag name

/-- A layer that has been built: a handler, or some other layer. -/
inductive BuiltLayer where
  | handler (h : Handler)
  | other (l : Layer)

/-- The layer itself. -/
def BuiltLayer.toLayer : BuiltLayer → Layer
  | handler h => h.toLayer
  | other l => l

/-- The kind that a handler answers; other layers have none. -/
def BuiltLayer.kind? : BuiltLayer → Option Kind
  | handler h => some h.kind
  | other _ => none

/-- The sink with a name; one name stands for trace events. -/
def sinkNamed (name : String) : Sink := if name = "tracing" then .events else .memory name

/-- The request that a value describes. -/
def requestOf (v : Value) : Program.Request where
  id := ((v.get? "id").map Value.plain).getD ""
  cookie := ((v.get? "cookie").map Value.plain).getD ""
  resourceId := ((v.get? "resource_id").map Value.plain).getD ""

/-- Hands a payload to the body of a handler, read as the handler asks. -/
def Reading.deliver (reading : Reading) (kind : Kind) (payload : Payload)
    (body : Value → Plan Process) : Run :=
  match reading with
  | .value =>
    .releasing payload.held fun _ =>
      match payload.toValue kind with
      | .ok v => (body v).start
      | .error failure => .aborted failure
  | .valueOrNull =>
    .releasing payload.held fun _ => (body (payload.asValue?.getD .null)).start
  | .future =>
    match payload.toFuture kind with
    | .ok pending => ((awaiting pending).andThen body).start
    | .error failure => .releasing payload.held fun _ => .aborted failure
  | .body =>
    match payload.toBody kind with
    | .ok (held, enter) =>
      .act .mint fun token => ((Process.scope token held enter).andThen body).start
    | .error failure => .releasing payload.held fun _ => .aborted failure

/-- The state layer of a script: `s` is the state, `p` the payload and `v` the final value. -/
def threadedLayer (env : Env) (kind : Kind) (init : Expr) (reading : Reading)
    (refusal : Option (Expr × FailureExpr)) (next reply finish : Expr) : Threaded Value :=
  .computing kind (init.eval env.values)
    (fun s payload =>
      let read : Except Failure Value :=
        match reading with
        | .valueOrNull => .ok (payload.asValue?.getD .null)
        | _ => payload.toValue kind
      match read with
      | .error failure => (.error failure, s)
      | .ok p =>
        let vars := ("p", p) :: ("s", s) :: env.values
        let refused : Option Failure :=
          refusal.bind fun (test, failure) =>
            if truthy (test.eval vars) then some (failure.eval vars) else none
        match refused with
        | some failure => (.error failure, s)
        | none =>
          let s := next.eval vars
          (.ok (reply.eval (("p", p) :: ("s", s) :: env.values)), s))
    fun s v => finish.eval (("v", v) :: ("s", s) :: env.values)

/-- A left-nested chain: each step continues the whole of what precedes it. -/
def chained (step : Nat → Value → Plan Process) (init : Value) (n : Nat) : Process :=
  (List.range n).foldl (fun p i => p.andThen (step i)) (.pure init)

/-- A right-nested loop: each step continues with the rest of the loop. -/
def looped (step : Nat → Value → Plan Process) : (left : Nat) → (i : Nat) → Value → Plan Process
  | 0, _, acc => .done (.pure acc)
  | left + 1, i, acc =>
    (step i acc).bind fun p => .done (p.andThen fun acc => looped step left (i + 1) acc)

mutual

/-- Builds a process. -/
def Blueprint.build (env : Env) : Blueprint → Plan Process
  | .pure v => .done (.pure (v.eval env.values))
  | .fail e => .done (.fail (e.eval env.values))
  | .perform k p =>
    (k.resolve env).bind fun kind =>
      (p.build env).bind fun payload => .done (.perform kind payload)
  | .lazy inner => .done (.lazy fun _ => (inner.build env).start)
  | .note text inner =>
    .act (.note (text.eval env.values).plain) fun _ => inner.build env
  | .bind first name next =>
    (first.build env).bind fun p =>
      .done (p.andThen fun v => next.build (env.bind name v))
  | .map inner name f =>
    (inner.build env).bind fun p =>
      .done (p.map fun v => .done (f.eval (env.bind name v).values))
  | .both first second =>
    (first.build env).bind fun p => (second.build env).bind fun q => .done (p.andAlso q)
  | .seq parts => buildSequence env parts
  | .cond c yes no => if truthy (c.eval env.values) then yes.build env else no.build env
  | .fold items init acc item body =>
    .done (.fold (elements (items.eval env.values)) (init.eval env.values) fun a x =>
      (body.build ((env.bind acc a).bind item x)).start)
  | .repeated n init i acc body =>
    .done (chained (fun k a => body.build ((env.bind i (ofNat k)).bind acc a))
      (init.eval env.values) (count (n.eval env.values)))
  | .loop n init i acc body =>
    looped (fun k a => body.build ((env.bind i (ofNat k)).bind acc a))
      (count (n.eval env.values)) 0 (init.eval env.values)
  | .callCC name body =>
    Effects.callCC fun token =>
      .act (.publish name token) fun _ => (body.build (env.bindEscape name token)).start
  | .callCCCommand name body =>
    .done (Effects.callCCCommand fun token =>
      .act (.publish name token) fun _ => (body.build (env.bindEscape name token)).start)
  | .exit name v =>
    (env.token name).bind fun
      | some token => .done (token.exit (v.eval env.values))
      | none => .done (.fail (.handler "driver" ("no escape " ++ name)))
  | .interpret layers inner =>
    (buildLayers env layers).bind fun built =>
      (inner.build env).bind fun p => .done ((Stack.mk (built.map BuiltLayer.toLayer)).interpret p)
  | .wait f => (f.build env).bind fun pending => .done (awaiting pending)
  | .log entry => .done (Effects.log (elements (entry.eval env.values)))
  | .logLine text => .done (Effects.logLine (text.eval env.values).plain)
  | .getConfig => .done Effects.getConfig
  | .configValue key => .done (Effects.configValue key)
  | .db method args =>
    .done (Effects.db (method.eval env.values).plain (elements (args.eval env.values)))
  | .load id => .done (Effects.load (id.eval env.values))
  | .product xs inspected =>
    let numbers := (elements (xs.eval env.values)).map number
    .done (Program.inspectedProduct numbers fun x =>
      if inspected then .act (.note ("visit " ++ (Value.num x).render)) .done else .done ())
  | .simpleCapture early => .done (Program.simpleCapture (truthy (early.eval env.values)))
  | .validCookie cookie => .done (Program.validCookie (cookie.eval env.values).plain)
  | .request r withDb =>
    let request := requestOf (r.eval env.values)
    .done (if withDb then Program.handleRequest request
      else Program.handleRequestWithoutDb request)

/-- Builds parts that run one after the other; each is built when it is reached. -/
def buildSequence (env : Env) : List Blueprint → Plan Process
  | [] => .done (.pure .null)
  | [last] => last.build env
  | first :: rest =>
    (first.build env).bind fun p => .done (p.andThen fun _ => buildSequence env rest)

/-- Builds a payload. -/
def Parameter.build (env : Env) : Parameter → Plan Payload
  | .none => .done .none
  | .value v => .done (.value (v.eval env.values))
  | .future f => (f.build env).bind fun pending => .done (.future pending)
  | .body name b =>
    .done (.body [] fun token =>
      .act (.publish name token) fun _ => (b.build (env.bindEscape name token)).start)

/-- Builds an operation. -/
def FuturePlan.build (env : Env) : FuturePlan → Plan Pending
  | .ok v => .done (.settled (.ok (v.eval env.values)))
  | .err e => .done (.settled (.error (e.eval env.values)))
  | .sleep ms next =>
    .done ⟨[], .sleep (count (ms.eval env.values)) []
      (.ofPlan (next.build env) fun pending => pending.start)⟩
  | .note text next =>
    .done ⟨[], .act (.note (text.eval env.values).plain) fun _ =>
      .ofPlan (next.build env) fun pending => pending.start⟩
  | .deferred name =>
    .act (.take name) fun
      | some channel => .done (.deferred channel)
      | none => .done (.settled (.error (.handler "driver" ("no deferred " ++ name))))
  | .call service method args =>
    .done ((env.service service).call
      ⟨(method.eval env.values).plain, elements (args.eval env.values)⟩)
  | .process b => (b.build env).bind fun p => .done p.bridge

/-- Builds a layer. -/
def LayerPlan.build (env : Env) : LayerPlan → Plan BuiltLayer
  | .answer k v =>
    (k.resolve env).bind fun kind =>
      let value := v.eval env.values
      .done (.handler ⟨kind, fun payload =>
        .releasing payload.held fun _ => (Process.pure value).start⟩)
  | .handler k name reading body =>
    (k.resolve env).bind fun kind =>
      .done (.handler ⟨kind, fun payload =>
        reading.deliver kind payload fun v => body.build (env.bind name v)⟩)
  | .instrument k name reading body describe =>
    (k.resolve env).bind fun kind =>
      let plain : Handler := ⟨kind, fun payload =>
        reading.deliver kind payload fun v => body.build (env.bind name v)⟩
      .done (.handler (plain.instrument fun input output =>
        elements (describe.eval (("out", output) :: ("in", input) :: env.values))))
  | .threaded k init reading refusal next reply finish =>
    (k.resolve env).bind fun kind =>
      .done (.other (threadedLayer env kind init reading refusal next reply finish).toLayer)
  | .logging sink => .done (.handler (logHandler (sinkNamed sink)))
  | .config record => .done (.handler (configHandler (record.eval env.values)))
  | .db service => .done (.handler (dbHandler (env.service service)))
  | .instrumentedDb service => .done (.handler (instrumentedDbHandler (env.service service)))
  | .dbWith f =>
    .done (.handler (dbHandlerWith fun request =>
      f.build ((env.bind "method" (.str request.method)).bind "args" (.list request.args))))
  | .collect => .done (.other collectLogs.toLayer)
  | .callCC => .done (.handler captureHandler)
  | .identity => .done (.other ⟨fun p => p⟩)
  | .wrap f => .done (.other ⟨fun p => p.map fun v => .done (f.eval (env.bind "it" v).values)⟩)
  | .stack layers =>
    (buildLayers env layers).bind fun built =>
      .done (.other (Stack.mk (built.map BuiltLayer.toLayer)).toLayer)

/-- Builds layers, in order. -/
def buildLayers (env : Env) : List LayerPlan → Plan (List BuiltLayer)
  | [] => .done []
  | l :: rest =>
    (l.build env).bind fun built =>
      (buildLayers env rest).bind fun others => .done (built :: others)

end

end Effects.Script
