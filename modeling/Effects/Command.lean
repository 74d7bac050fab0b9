import Effects.Failure
import Effects.Value

/-!
# Kinds of commands and the identities behind them

A command is discriminated by its kind: a named effect, compared by name, or the escape from one
capture scope, compared by the token that the scope minted. A tag spelled like a token's text is
still not that token.
-/

namespace Effects

/-- The identity of one capture scope. Serials are handed out in order and never reused. -/
structure Token where
  /-- The number under which the token is shown. -/
  serial : Nat
deriving DecidableEq, Repr

/-- The text of a token. -/
def Token.shown (t : Token) : String := "escape#" ++ toString t.serial

/-- What a command asks for. -/
inductive Kind where
  /-- A named effect. -/
  | tag (name : String)
  /-- The escape from the scope that minted the token. -/
  | escape (token : Token)
deriving DecidableEq, Repr

namespace Kind

/-- The text of a kind: the name of the effect, or the text of the token. -/
def shown : Kind → String
  | tag name => name
  | escape token => token.shown

/-- Whether the kind is an escape from some scope. -/
def isEscape : Kind → Bool
  | tag _ => false
  | escape _ => true

/-- Write a log entry. -/
def log : Kind := tag "log"

/-- Ask for the configuration record. -/
def getConfig : Kind := tag "getConfig"

/-- Call the record store. -/
def db : Kind := tag "db"

/-- Wait for a pending operation. -/
def wait : Kind := tag "wait"

/-- Run a body in a capture scope. -/
def callCC : Kind := tag "call-cc"

end Kind

/-- One deferred operation: the name under which its two halves meet. -/
structure Channel where
  /-- Channels are numbered in the order of their creation. -/
  id : Nat
deriving DecidableEq, Repr

/-- Something whose owner gives it up when the owner is dropped. -/
inductive Claim where
  /-- The scope that minted a token; given up, the scope is closed. -/
  | scope (token : Token)
  /-- The receiving half of a deferred operation; given up, nobody hears its outcome. -/
  | receiver (channel : Channel)
deriving DecidableEq, Repr

end Effects
