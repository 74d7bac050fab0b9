import Effects.Store

/-!
# Configuration

What the command-line program can be told from outside: the secret, the log filter and the store.
-/

namespace Effects

/-- The settings of the store. -/
structure StoreConfig where
  /-- The pause before every store call, in milliseconds. -/
  latency : Nat
  /-- The attempts of every store call, the first one included. -/
  retries : Nat
  /-- The payloads of the records that the store starts with. -/
  records : Fields String
deriving DecidableEq, Repr

/-- The settings of the program. -/
structure Config where
  /-- The secret that the cookies of requests are checked against. -/
  secret : String
  /-- Which trace events are shown by default. -/
  logFilter : String
  /-- The settings of the store. -/
  store : StoreConfig
deriving DecidableEq, Repr

namespace Config

/-- The log filter without a setting. -/
def defaultLogFilter : String := "info"

/-- The retries without a setting, where other settings of the store are given. -/
def defaultRetries : Nat := 1

/-- The record that answers `getConfig` commands. -/
def record (c : Config) : Value := .ofFields [("secret", .str c.secret)]

/-- The pause between the attempts of a store call, in milliseconds. -/
def backoff : Nat := 50

/-- The data that the store starts with. -/
def storeData (c : Config) : Store :=
  .seeded (c.store.records.map fun r => (r.1, .str r.2))

/-- The way to reach the store that is kept under a name. -/
def service (c : Config) (name : String) : Service where
  store := name
  latency := if c.store.latency > 0 then some c.store.latency else none
  retry := some ⟨c.store.retries, backoff⟩

/-- A part of a configuration that may be missing. -/
def partOr {ι α : Type} (decode : ι → Option α) (default : α) : Option ι → Option α
  | some part => decode part
  | none => some default

end Config

end Effects
