import Effects.Capture

/-!
# Programs with capture points

A program in the abstract: it says where scopes are captured, but not how. `CaptureProgram n` has
`n` captured escapes at hand, and a capture point runs its body with one more. Escapes are numbered,
the latest first, so a program can leave any scope whose escape it has captured, can leak an escape
by publishing it under a name, and can use an escape that it finds published; it cannot look at the
token itself.

There are two ways to build a process from a program. They differ at the capture points only:
`CaptureProgram.direct` makes each one a scope of its own, and `CaptureProgram.command` asks the
surrounding layer for the scope.
-/

namespace Effects

/-- Acts that have nothing to do with tokens, claims or reports. -/
def Act.Plain : Act → Prop
  | .write _ _ | .note _ | .take _ | .attempt _ _ => True
  | _ => False

/-- A program with capture points, which has `n` captured escapes at hand. -/
inductive CaptureProgram : Nat → Type where
  | pure {n : Nat} (v : Value) : CaptureProgram n
  | fail {n : Nat} (failure : Failure) : CaptureProgram n
  /-- Yields a command; its payload has nothing to do with the captured escapes. -/
  | perform {n : Nat} (name : String) (hname : Kind.tag name ≠ .callCC) (payload : Payload) :
    CaptureProgram n
  /-- Yields a command with a program as its payload, which is started with some token. -/
  | performBody {n : Nat} (name : String) (hname : Kind.tag name ≠ .callCC)
    (body : CaptureProgram (n + 1)) : CaptureProgram n
  /-- Leaves the scope of a captured escape. -/
  | exit {n : Nat} (escape : Fin n) (v : Value) : CaptureProgram n
  | lazy {n : Nat} (program : CaptureProgram n) : CaptureProgram n
  | andThen {n : Nat} (first : CaptureProgram n) (next : Value → CaptureProgram n) :
    CaptureProgram n
  | andAlso {n : Nat} (first second : CaptureProgram n) : CaptureProgram n
  | map {n : Nat} (f : Value → Value) (program : CaptureProgram n) : CaptureProgram n
  | fold {n : Nat} (items : List Value) (init : Value) (f : Value → Value → CaptureProgram n) :
    CaptureProgram n
  /-- Captures a scope. -/
  | capture {n : Nat} (body : CaptureProgram (n + 1)) : CaptureProgram n
  /-- Leaks a captured escape under a name. -/
  | leak {n : Nat} (name : String) (escape : Fin n) (program : CaptureProgram n) : CaptureProgram n
  /-- Goes on with the escape that was leaked under a name, if there is one. -/
  | retrieve {n : Nat} (name : String) (found : CaptureProgram (n + 1))
    (absent : CaptureProgram n) : CaptureProgram n
  /-- Acts while it is built. -/
  | act {n : Nat} (a : Act) (ha : a.Plain) (next : a.Answer → CaptureProgram n) : CaptureProgram n

namespace CaptureProgram

/-- Builds the process of a program, given the captured escapes and what a capture point is. -/
def build (point : (Token → Run) → Plan Process) :
    {n : Nat} → CaptureProgram n → (Fin n → Token) → Plan Process
  | _, .pure v, _ => .done (.pure v)
  | _, .fail failure, _ => .done (.fail failure)
  | _, .perform name _ payload, _ => .done (.perform (.tag name) payload)
  | _, .performBody name _ body, env =>
    .done (.perform (.tag name)
      (.body [] fun token => (body.build point (Fin.cases token env)).start))
  | _, .exit escape v, env => .done ((env escape).exit v)
  | _, .lazy program, env => .done (.lazy fun _ => (program.build point env).start)
  | _, .andThen first next, env =>
    (first.build point env).bind fun p => .done (p.andThen fun v => (next v).build point env)
  | _, .andAlso first second, env =>
    (first.build point env).bind fun p => (second.build point env).bind fun q => .done (p.andAlso q)
  | _, .map f program, env =>
    (program.build point env).bind fun p => .done (p.map fun v => .done (f v))
  | _, .fold items init f, env =>
    .done (.fold items init fun acc item => ((f acc item).build point env).start)
  | _, .capture body, env => point fun token => (body.build point (Fin.cases token env)).start
  | _, .leak name escape program, env =>
    .act (.publish name (env escape)) fun _ => program.build point env
  | _, .retrieve name found absent, env =>
    .act (.published name) fun
      | some token => found.build point (Fin.cases token env)
      | none => absent.build point env
  | _, .act a _ next, env => .act a fun answer => (next answer).build point env

/-- Each capture point is a scope of its own. -/
def direct {n : Nat} (program : CaptureProgram n) (env : Fin n → Token) : Plan Process :=
  program.build callCC env

/-- Each capture point asks the surrounding layer for a scope. -/
def command {n : Nat} (program : CaptureProgram n) (env : Fin n → Token) : Plan Process :=
  program.build (fun body => .done (callCCCommand body)) env

end CaptureProgram

end Effects
