import Effects.Alone
import Effects.Capture
import Effects.CommandLine.Help
import Effects.CommandLine.Invocation
import Effects.Config.Sources
import Effects.Instrument
import Effects.Program.Product
import Effects.Program.Request
import Effects.Record

/-!
# Carrying out a command line

Each job is one of the programs of this library under a stack of layers. `Job.run` carries out a job
under a configuration, and `execute` does everything from the arguments to the text that is printed.
Whoever calls it says how files are read and what a fresh identifier is.
-/

namespace Effects.CommandLine

/-! ## Jobs -/

/-- The name of the store that requests are served from. -/
def storeName : String := "records"

/-- The layers under which a request for a record is handled. -/
def requestStack (config : Config) (instrument : Bool) : Stack :=
  let service := config.service storeName
  .mk [(logHandler .events).toLayer, (configHandler config.record).toLayer,
    (if instrument then instrumentedDbHandler service else dbHandler service).toLayer]

/-- The layers under which a request without a record is handled. -/
def collectStack (config : Config) : Stack :=
  .mk [(configHandler config.record).toLayer, collectLogs.toLayer]

/-- The layers under which numbers are multiplied. -/
def multiplyStack : Stack := .mk [captureHandler.toLayer]

/-- Drives a process under a stack to its end; no time passes. -/
def driven (stack : Stack) (p : Process) : Ending :=
  let (outcome, world) := World.carryOut {} (stack.interpret p).drive
  ⟨outcome, world, 0⟩

/-- Carries out a job. Requests without an identifier of their own get `freshId`. -/
def Job.run (config : Config) (freshId : String) : Job → Ending
  | .request cookie id requestId instrument =>
    let p := Program.handleRequest ⟨requestId.getD freshId, cookie, id⟩
    ((requestStack config instrument).interpret p).bridge.start.alone
      { stores := [(storeName, config.storeData)] }
  | .multiply numbers => driven multiplyStack (Program.product numbers)
  | .collect cookie =>
    driven (collectStack config) (Program.handleRequestWithoutDb ⟨freshId, cookie, ""⟩)

/-- What is said of a job that fails. -/
def Job.failureTitle : Job → String
  | .request .. => "Request computation failed"
  | .multiply _ => "Multiplier computation failed"
  | .collect _ => "Collect computation failed"

/-- A failure of a job on one line: what failed, and every cause. -/
def Job.failureText (job : Job) (failure : Failure) : String :=
  ": ".intercalate (job.failureTitle :: (failure :: failure.sources).map Failure.message)

/-! ## From arguments to text -/

/-- The text that a refused command line is answered with. -/
def Refusal.message : Refusal → String
  | help topic => topic.helpText
  | nothingGiven => Topic.program.helpText
  | noCommand => "error: a subcommand is required"
  | unknownCommand word => "error: unrecognized subcommand '" ++ word ++ "'"
  | unknownArgument argument => "error: unexpected argument '" ++ argument ++ "' found"
  | missingArgument => "error: a required argument was not provided"
  | missingValue name => "error: a value is required for '--" ++ name ++ "'"
  | unexpectedValue name => "error: '--" ++ name ++ "' takes no value"
  | repeated name => "error: the argument '--" ++ name ++ "' cannot be used multiple times"
  | notNumber => "error: invalid number"

/-! ## The log -/

/-- The levels that a filter admits. A filter names the least important of them. -/
def admitted (filter : String) : List Level :=
  match Text.lower filter with
  | "warn" => [.warn]
  | "info" => [.warn, .info]
  | "debug" => [.warn, .info, .debug]
  | "trace" => [.warn, .info, .debug, .trace]
  | _ => []

/-- The events that are shown under a configuration. -/
def shownEvents (config : Config) (events : Array Event) : List Event :=
  let levels := admitted config.logFilter
  events.toList.filter fun e => levels.contains e.level

/-! ## The exit -/

/-- How the program ends. -/
structure Exit where
  /-- The exit code. -/
  code : Nat
  /-- The text on standard output. -/
  output : String
  /-- The text on standard error, apart from the log. -/
  complaint : String
  /-- The events of the log that are shown. -/
  events : List Event
  /-- The milliseconds that the job takes. -/
  elapsed : Nat

/-- The exit of a refused command line. Help that was asked for is no error. -/
def Refusal.exit (r : Refusal) : Exit :=
  match r with
  | help _ => ⟨0, r.message, "", [], 0⟩
  | _ => ⟨2, "", r.message, [], 0⟩

/-- The exit without a configuration. -/
def configExit (e : ConfigError) : Exit := ⟨1, "", "Error: " ++ e.message, [], 0⟩

/-- The exit of a job with what is shown of its log: its value as indented JSON, or what has
failed. -/
def Job.exit (job : Job) (ending : Ending) (events : List Event) : Exit :=
  match ending.outcome with
  | .ok value => ⟨0, value.toJson.pretty ++ "\n", "", events, ending.elapsed⟩
  | .error failure => ⟨1, "", "Error: " ++ job.failureText failure, events, ending.elapsed⟩

/-- Runs the program: reads the arguments, loads the configuration and carries out the job. -/
def execute {m : Type → Type} [Monad m] (read : String → m (Option String)) (env : Environment)
    (freshId : String) (arguments : List String) : m Exit := do
  match Invocation.ofArguments arguments with
  | .error refusal => return refusal.exit
  | .ok invocation =>
    match ← Config.load read invocation.config env with
    | .error e => return configExit e
    | .ok config =>
      let ending := invocation.job.run config freshId
      return invocation.job.exit ending (shownEvents config ending.world.events)

end Effects.CommandLine
