import Effects.Config.Basic
import Effects.Decimal.Reading
import Effects.Json

/-!
# Configurations as JSON

Reading a configuration from a JSON value that spells it out. Types are strict here, and a structure
is an object or, by position, an array.
-/

namespace Effects.Config

/-- A whole number from zero up to a bound. -/
def naturalUpTo? (bound : Nat) : Json → Option Nat
  | .integer n => if 0 ≤ n ∧ n ≤ bound then some n.toNat else none
  | _ => none

/-- An object of texts. -/
def textsOf? : Json → Option (Fields String)
  | .object members => members.mapM fun m => m.2.asString?.map fun text => (m.1, text)
  | _ => none

/-- The settings of a store, each of which may be missing. -/
def storeOfJson? (j : Json) : Option StoreConfig := do
  match ← j.parts? ["latency_ms", "retries", "records"] with
  | [latency, retries, records] =>
    return ⟨← partOr (naturalUpTo? Decimal.maxNatural64) 0 latency,
      ← partOr (naturalUpTo? Decimal.maxNatural32) defaultRetries retries,
      ← partOr textsOf? [] records⟩
  | _ => none

/-- The settings of the program. The secret is required; where nothing is said about the store,
calls of it are not repeated. -/
def ofJson? (j : Json) : Option Config := do
  match ← j.parts? ["secret", "log_filter", "store"] with
  | [some secret, filter, store] =>
    return ⟨← secret.asString?, ← partOr Json.asString? defaultLogFilter filter,
      ← partOr storeOfJson? ⟨0, 0, []⟩ store⟩
  | _ => none

end Effects.Config
