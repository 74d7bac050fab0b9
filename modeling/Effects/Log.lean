import Effects.Layer

/-!
# Log entries

The `log` command and its layers: one writes each entry to a sink as it is yielded, the other
collects the entries of a run and completes with them beside the value.
-/

namespace Effects

/-- Where written log entries go. -/
inductive Sink where
  /-- Lines kept in memory under a name. -/
  | memory (name : String)
  /-- Trace events. -/
  | events
deriving DecidableEq, Repr

/-- A log entry on one line: text verbatim, every other value as JSON, with blanks between. -/
def renderEntry (entry : List Value) : String := " ".intercalate (entry.map Value.plain)

/-- Requests that an entry be logged. -/
def log (entry : List Value) : Process := .perform .log (.value (.list entry))

/-- Requests that a line of text be logged. -/
def logLine (text : String) : Process := log [.str text]

/-- The entry of a log command: the elements of a list, nothing for `null`, and any other value as
an entry of its own. -/
def logEntry (payload : Payload) : Except Failure (List Value) :=
  match payload.toValue .log with
  | .ok (.list entry) => .ok entry
  | .ok .null => .ok []
  | .ok single => .ok [single]
  | .error failure => .error failure

/-- Writes an entry to a sink. -/
def Sink.write (sink : Sink) (entry : List Value) : Act :=
  match sink with
  | memory name => .write name (renderEntry entry)
  | events => .report ⟨.info, "LOG " ++ renderEntry entry, [], true⟩

/-- Writes every log command to a sink and answers it with `null`. -/
def logHandler (sink : Sink) : Handler where
  kind := .log
  handle payload :=
    match logEntry payload with
    | .ok entry => .act (sink.write entry) fun _ => .ended .null
    | .error failure => .releasing payload.held fun _ => .aborted failure

/-- Collects the payloads of the log commands of a run and completes with `value` and `logs`. -/
def collectLogs : Threaded (List Value) :=
  .computing .log []
    (fun logs payload =>
      match payload.toValue .log with
      | .ok entry => (.ok .null, logs ++ [entry])
      | .error failure => (.error failure, logs))
    fun logs value => .ofFields [("value", value), ("logs", .list logs)]

end Effects
