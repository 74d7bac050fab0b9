import Effects.Log
import Effects.Record
import Effects.Store

/-!
# Requests

A request is logged, its cookie is checked against the configured secret, and only then is the
record that it names loaded. Nothing here says how logging, configuration or storage are done.
-/

namespace Effects.Program

/-- A request for a record. -/
structure Request where
  /-- The name of the request in the log. -/
  id : String
  /-- The cookie that has to equal the secret. -/
  cookie : String
  /-- The record that is asked for. -/
  resourceId : String
deriving DecidableEq, Repr

/-- The request that a JSON value spells out: an object or, by position, an array. -/
def Request.ofJson? (j : Json) : Option Request := do
  match ← j.parts? ["id", "cookie", "resource_id"] with
  | [some id, some cookie, some resourceId] =>
    return ⟨← id.asString?, ← cookie.asString?, ← resourceId.asString?⟩
  | _ => none

/-- A response: a status, and a body if there is one. -/
def response (status : Nat) (body : Option Value) : Value :=
  .ofFields (("status", .num (Decimal.ofInt status))
    :: match body with
      | some body => [("body", body)]
      | none => [])

/-- Completes with whether a cookie equals the configured secret. -/
def validCookie (cookie : String) : Process :=
  (configValue "secret").map fun secret => .done (.bool (secret.asStr? = some cookie))

/-- Logs the arrival of a request. -/
def received (r : Request) : Process := log [.str "received request", .str r.id]

/-- Logs a request, checks its cookie and loads the record that it names. -/
def handleRequest (r : Request) : Process :=
  ((received r).andAlso (validCookie r.cookie)).andThen fun valid =>
    if valid.asBool? = some true then
      .done ((load (.str r.resourceId)).map fun record => .done (response 200 (some record)))
    else .done (.pure (response 400 none))

/-- Logs a request and checks its cookie, without loading anything. -/
def handleRequestWithoutDb (r : Request) : Process :=
  ((received r).andAlso (validCookie r.cookie)).andThen fun valid =>
    if valid.asBool? = some true then
      .done ((logLine "authenticated").andAlso (.pure (response 200 none)))
    else .done (.pure (response 400 none))

end Effects.Program
