import Effects.Log
import Effects.Proofs.Dialogue

/-!
# Two loggers

Log entries can be collected or written to a sink. Both loggers acknowledge every log command with
`null`, so the process behind either of them is in one and the same dialogue, in which the log
commands are acknowledged and all others are answered from outside (`Run.acknowledged`). What either
logger shows, and what it does with the entries, can be read off this dialogue.

The process may write to the sink itself. Then its own lines and the entries are shuffled: neither
of them are lost, repeated or put into another order.
-/

namespace Effects

/-! ## Shuffles -/

/-- The third list consists of the first two, each of them in its order. -/
inductive Shuffle {α : Type} : List α → List α → List α → Prop where
  | nil : Shuffle [] [] []
  | left (a : α) {xs ys zs : List α} (h : Shuffle xs ys zs) : Shuffle (a :: xs) ys (a :: zs)
  | right (a : α) {xs ys zs : List α} (h : Shuffle xs ys zs) : Shuffle xs (a :: ys) (a :: zs)

namespace Shuffle

variable {α : Type} {xs ys zs : List α}

theorem append_left (more : List α) (h : Shuffle xs ys zs) :
    Shuffle (more ++ xs) ys (more ++ zs) := by
  induction more with
  | nil => exact h
  | cons a more ih => exact .left a ih

theorem eq_of_nil_left (h : Shuffle [] ys zs) : zs = ys := by
  generalize hxs : ([] : List α) = xs at h
  induction h with
  | nil => rfl
  | left a h ih => cases hxs
  | right a h ih => rw [ih hxs]

end Shuffle

/-! ## Lines -/

/-- The lines that an act writes to a sink in memory. -/
def Act.linesTo (sink : String) : Act → List String
  | .write name line => if name = sink then [line] else []
  | _ => []

namespace World

/-- The lines of a sink in memory. -/
def linesOf (w : World) (sink : String) : List String :=
  (w.lines.toList.filter fun line => line.1 = sink).map Prod.snd

/-- A world without what no act asks for: what has been reported and written. -/
def unwritten (w : World) : World := { w with events := #[], lines := #[] }

theorem linesOf_release (w : World) (claims : List Claim) (sink : String) :
    (w.release claims).linesOf sink = w.linesOf sink := by
  have hlines : (w.release claims).lines = w.lines := by
    refine release_preserves lines (fun claim _ w => ?_) w
    cases claim with
    | scope token => rfl
    | receiver channel => simp only [releaseOne]; split <;> rfl
  rw [linesOf, hlines, linesOf]

theorem linesOf_perform (w : World) (a : Act) (sink : String) :
    (w.perform a).2.linesOf sink = w.linesOf sink ++ a.linesTo sink := by
  cases a with
  | release claims =>
    show (w.release claims).linesOf sink = w.linesOf sink ++ []
    rw [linesOf_release, List.append_nil]
  | write name line =>
    by_cases hname : name = sink <;> simp [perform, linesOf, Act.linesTo, hname]
  | attempt store request =>
    simp only [perform]
    cases w.stores.lookup store <;> simp [linesOf, Act.linesTo]
  | _ => simp [perform, linesOf, Act.linesTo]

theorem eq_of_unwritten_eq {w w' : World} (h : w.unwritten = w'.unwritten) :
    ∃ events lines, w' = { w with events := events, lines := lines } := by
  obtain ⟨⟩ := w
  obtain ⟨⟩ := w'
  simp only [unwritten, World.mk.injEq] at h
  obtain ⟨rfl, rfl, rfl, -, -, rfl, rfl, rfl, rfl⟩ := h
  exact ⟨_, _, rfl⟩

theorem unwritten_release {w w' : World} (h : w.unwritten = w'.unwritten) (claims : List Claim) :
    (w.release claims).unwritten = (w'.release claims).unwritten := by
  induction claims generalizing w w' with
  | nil => exact h
  | cons claim claims ih =>
    obtain ⟨events, lines, rfl⟩ := eq_of_unwritten_eq h
    refine ih ?_
    cases claim with
    | scope token => rfl
    | receiver channel =>
      simp only [releaseOne, channelState]
      split <;> rfl

/-- What an act answers depends neither on reports nor on lines. -/
theorem unwritten_perform {w w' : World} (h : w.unwritten = w'.unwritten) (a : Act) :
    (w.perform a).1 = (w'.perform a).1 ∧
      (w.perform a).2.unwritten = (w'.perform a).2.unwritten := by
  cases a with
  | release claims => exact ⟨rfl, unwritten_release h claims⟩
  | attempt store request =>
    obtain ⟨events, lines, rfl⟩ := eq_of_unwritten_eq h
    simp only [perform]
    cases w.stores.lookup store <;> exact ⟨rfl, rfl⟩
  | _ =>
    obtain ⟨events, lines, rfl⟩ := eq_of_unwritten_eq h
    exact ⟨rfl, rfl⟩

end World

/-! ## Acknowledged log commands -/

mutual

/-- The dialogue of a process whose log commands are acknowledged. -/
def Process.acknowledged : Process → Value → World → List Value → Dialogue
  | .spent held, _, w, answers => ⟨[], .failed .alreadyCompleted (.spent held), answers, w⟩
  | .paused _ resume, v, w, answers => (resume v).acknowledged w answers

/-- The dialogue of a run whose log commands are acknowledged with `null`, while the others are
answered by the answers. A log command without a value is the end. -/
def Run.acknowledged : Run → World → List Value → Dialogue
  | .act a next, w, answers => (next (w.perform a).1).acknowledged (w.perform a).2 answers
  | .suspended kind payload rest, w, answers =>
    if kind = .log then
      match payload.toValue .log with
      | .ok _ => (rest.acknowledged .null w answers).after [(⟨.log, payload⟩, .null)]
      | .error failure => ⟨[], .failed failure rest, answers, w.release payload.held⟩
    else
      match answers with
      | [] => ⟨[], .suspended ⟨kind, payload⟩ rest, [], w⟩
      | v :: answers => (rest.acknowledged v w answers).after [(⟨kind, payload⟩, v)]
  | .completed v rest, w, answers => ⟨[], .completed v rest, answers, w⟩
  | .failed failure rest, w, answers => ⟨[], .failed failure rest, answers, w⟩

end

theorem Process.acknowledged_eq (p : Process) (v : Value) (w : World) (answers : List Value) :
    p.acknowledged v w answers = (p.advance v).acknowledged w answers := by
  cases p <;> rfl

namespace Run

variable {kind : Kind} {payload : Payload} {rest : Process} {w : World} {answers : List Value}

theorem acknowledged_log {entry : Value} (hentry : payload.toValue .log = .ok entry) :
    (Run.suspended .log payload rest).acknowledged w answers =
      ((rest.advance .null).acknowledged w answers).after [(⟨.log, payload⟩, .null)] := by
  rw [Run.acknowledged.eq_def]
  simp only [if_true, hentry, Process.acknowledged_eq]

theorem acknowledged_refused {failure : Failure}
    (hpayload : payload.toValue .log = .error failure) :
    (Run.suspended .log payload rest).acknowledged w answers =
      ⟨[], .failed failure rest, answers, w.release payload.held⟩ := by
  rw [Run.acknowledged.eq_def]
  simp only [if_true, hpayload]

theorem acknowledged_answered (hkind : kind ≠ .log) (v : Value) :
    (Run.suspended kind payload rest).acknowledged w (v :: answers) =
      ((rest.advance v).acknowledged w answers).after [(⟨kind, payload⟩, v)] := by
  rw [Run.acknowledged.eq_def]
  simp only [if_neg hkind, Process.acknowledged_eq]

theorem acknowledged_unanswered (hkind : kind ≠ .log) :
    (Run.suspended kind payload rest).acknowledged w [] =
      ⟨[], .suspended ⟨kind, payload⟩ rest, [], w⟩ := by
  rw [Run.acknowledged.eq_def]
  simp only [if_neg hkind]

end Run

namespace Dialogue

/-- The exchanges that are not about the log. -/
def outward (d : Dialogue) : List (Command × Value) :=
  d.exchanges.filter fun exchange => exchange.1.kind ≠ .log

/-- The values of the log commands, one for each. -/
def entries (d : Dialogue) : List Value :=
  d.exchanges.filterMap fun exchange =>
    if exchange.1.kind = .log then (exchange.1.payload.toValue .log).toOption else none

variable {payload : Payload} (d : Dialogue)

theorem outward_log (answer : Value) :
    (d.after [(⟨.log, payload⟩, answer)]).outward = d.outward := by
  simp [outward, after]

theorem outward_of_ne {kind : Kind} (hkind : kind ≠ .log) (answer : Value) :
    (d.after [(⟨kind, payload⟩, answer)]).outward = (⟨kind, payload⟩, answer) :: d.outward := by
  simp [outward, after, hkind]

theorem entries_log {entry : Value} (hentry : payload.toValue .log = .ok entry) (answer : Value) :
    (d.after [(⟨.log, payload⟩, answer)]).entries = entry :: d.entries := by
  simp [entries, after, hentry, Except.toOption]

theorem entries_of_ne {kind : Kind} (hkind : kind ≠ .log) (answer : Value) :
    (d.after [(⟨kind, payload⟩, answer)]).entries = d.entries := by
  simp [entries, after, hkind]

end Dialogue

/-- A payload with a value holds nothing. -/
theorem Payload.held_of_toValue {payload : Payload} {kind : Kind} {v : Value}
    (h : payload.toValue kind = .ok v) : payload.held = [] := by
  cases payload with
  | none | value => rfl
  | future | body => cases h

/-! ## Collecting -/

/-- What is shown where entries are collected: a value comes with the entries. -/
def Observed.withLogs (logs : List Value) : Observed → Observed
  | .completed v => .completed (.ofFields [("value", v), ("logs", .list logs)])
  | other => other

/-- A value that comes with entries can be told from them. -/
theorem Observed.withLogs_eq_completed_iff {o : Observed} {logs entries : List Value} {v : Value} :
    o.withLogs entries = .completed (.ofFields [("value", v), ("logs", .list logs)]) ↔
      o = .completed v ∧ logs = entries := by
  have horder : "logs" < "value" := by decide
  have hfields (u : Value) (items : List Value) :
      Value.ofFields [("value", u), ("logs", .list items)] =
        .obj [("logs", .list items), ("value", u)] := by
    simp only [Value.ofFields, Fields.ofList, List.foldl_cons, List.foldl_nil, Fields.insert,
      if_pos horder]
  cases o with
  | completed u =>
    simp only [withLogs, hfields, completed.injEq, Value.obj.injEq, List.cons.injEq, Prod.mk.injEq,
      Value.list.injEq, true_and, and_true]
    exact ⟨fun ⟨hlogs, hv⟩ => ⟨hv, hlogs.symm⟩, fun ⟨hv, hlogs⟩ => ⟨hlogs.symm, hv⟩⟩
  | suspended | failed => simp [withLogs]

theorem Observed.withLogs_eq_failed_iff {o : Observed} {entries : List Value} {failure : Failure} :
    o.withLogs entries = .failed failure ↔ o = .failed failure := by
  cases o <;> simp [withLogs]

/-- The dialogue `d` is what a collecting logger, which has the entries `logs` already, makes of the
dialogue `t`. -/
structure Dialogue.Collected (logs : List Value) (t d : Dialogue) : Prop where
  exchanges : d.exchanges = t.outward
  last : d.last.observed = t.last.observed.withLogs (logs ++ t.entries)
  world : d.world.quiet = t.world.quiet

namespace Dialogue.Collected

variable {logs : List Value} {t d : Dialogue} {payload : Payload}

theorem log {entry : Value} (h : Collected (logs ++ [entry]) t d)
    (hentry : payload.toValue .log = .ok entry) (answer : Value) :
    Collected logs (t.after [(⟨.log, payload⟩, answer)]) d where
  exchanges := h.exchanges.trans (outward_log t answer).symm
  last := by
    rw [entries_log t hentry, h.last, List.append_assoc]
    rfl
  world := h.world

theorem answered {kind : Kind} (h : Collected logs t d) (hkind : kind ≠ .log) (v : Value) :
    Collected logs (t.after [(⟨kind, payload⟩, v)]) (d.after [(⟨kind, payload⟩, v)]) where
  exchanges := by
    rw [outward_of_ne t hkind, ← h.exchanges]
    rfl
  last := by
    rw [entries_of_ne t hkind]
    exact h.last
  world := h.world

end Dialogue.Collected

namespace Run

variable {kind : Kind} {payload : Payload} {rest : Process} {logs : List Value}

theorem threadedBy_collectLogs_log {entry : Value} (hentry : payload.toValue .log = .ok entry) :
    (Run.suspended .log payload rest).threadedBy collectLogs logs =
      .reporting .trace "updating interpreter state" [("kind", Kind.log.shown)] fun _ =>
        (rest.advance .null).threadedBy collectLogs (logs ++ [entry]) := by
  have hanswer : collectLogs.answer logs payload = .done (.ok .null, logs ++ [entry]) := by
    simp only [collectLogs, Threaded.computing, Payload.held_of_toValue hentry, hentry]
    rfl
  have hkind : Kind.log = collectLogs.kind := rfl
  rw [Run.threadedBy, if_pos hkind, hanswer, ← Process.advance_threadedBy]
  rfl

theorem threadedBy_collectLogs_refused {failure : Failure}
    (hpayload : payload.toValue .log = .error failure) :
    (Run.suspended .log payload rest).threadedBy collectLogs logs =
      .reporting .trace "updating interpreter state" [("kind", Kind.log.shown)] fun _ =>
        .releasing payload.held fun _ => .failed failure (rest.threadedBy collectLogs logs) := by
  have hanswer : collectLogs.answer logs payload =
      (Plan.release payload.held).bind fun _ => .done (.error failure, logs) := by
    simp only [collectLogs, Threaded.computing, hpayload]
  have hkind : Kind.log = collectLogs.kind := rfl
  rw [Run.threadedBy, if_pos hkind, hanswer, Run.ofPlan_release]
  rfl

theorem threadedBy_collectLogs_of_ne (hkind : kind ≠ .log) :
    (Run.suspended kind payload rest).threadedBy collectLogs logs =
      .suspended kind payload (rest.threadedBy collectLogs logs) := by
  have hkind' : kind ≠ collectLogs.kind := hkind
  rw [Run.threadedBy, if_neg hkind']

/-- The collecting logger collects the entries of the dialogue in which they are acknowledged. -/
theorem collected_threadedBy (r : Run) (logs : List Value) {w w' : World}
    (hw : w'.quiet = w.quiet) (answers : List Value) :
    Dialogue.Collected logs (r.acknowledged w answers)
      ((r.threadedBy collectLogs logs).dialogue w' answers) := by
  induction r using Run.induct generalizing logs w w' answers with
  | act a next ih =>
    obtain ⟨hanswer, hworld⟩ := World.quiet_perform hw a
    rw [Run.acknowledged, Run.threadedBy, Run.dialogue, hanswer]
    exact ih _ logs hworld answers
  | suspended kind payload rest ih =>
    by_cases hkind : kind = .log
    · subst hkind
      have hreported : (w'.reported [⟨.trace, "updating interpreter state",
          [("kind", Kind.log.shown)], false⟩]).quiet = w.quiet :=
        (w'.quiet_reported (by simp)).trans hw
      cases hentry : payload.toValue .log with
      | ok entry =>
        rw [threadedBy_collectLogs_log hentry, dialogue_reporting, acknowledged_log hentry]
        exact (ih .null (logs ++ [entry]) hreported answers).log hentry .null
      | error failure =>
        rw [threadedBy_collectLogs_refused hentry, dialogue_reporting, dialogue_releasing,
          acknowledged_refused hentry]
        exact ⟨rfl, rfl, (World.quiet_perform hreported (.release payload.held)).2⟩
    · rw [threadedBy_collectLogs_of_ne hkind]
      cases answers with
      | nil =>
        rw [acknowledged_unanswered hkind]
        exact ⟨rfl, rfl, hw⟩
      | cons v answers =>
        rw [acknowledged_answered hkind, dialogue_answered, Process.advance_threadedBy]
        exact (ih v logs hw answers).answered hkind v
  | completed v rest =>
    refine ⟨rfl, ?_, hw⟩
    show Observed.completed _ = Observed.withLogs (logs ++ []) (.completed v)
    rw [List.append_nil]
    rfl
  | failed failure rest => exact ⟨rfl, rfl, hw⟩

end Run

/-! ## Writing -/

/-- The entry that a logged value stands for: the elements of a list, nothing for `null`, and any
other value as an entry of its own. -/
def loggedEntry : Value → List Value
  | .list entry => entry
  | .null => []
  | single => [single]

theorem logEntry_of_value {payload : Payload} {v : Value} (h : payload.toValue .log = .ok v) :
    logEntry payload = .ok (loggedEntry v) := by
  rw [logEntry, h]
  cases v <;> rfl

theorem logEntry_of_refused {payload : Payload} {failure : Failure}
    (h : payload.toValue .log = .error failure) : logEntry payload = .error failure := by
  rw [logEntry, h]

/-- The dialogue `d`, which began in the world `w'`, is what a logger that writes to a sink makes of
the dialogue `t`, which began in `w`. -/
structure Dialogue.Written (sink : String) (w w' : World) (t d : Dialogue) : Prop where
  exchanges : d.exchanges = t.outward
  last : d.last.observed = t.last.observed
  lines : ∃ own lines, t.world.linesOf sink = w.linesOf sink ++ own ∧
    d.world.linesOf sink = w'.linesOf sink ++ lines ∧
    Shuffle own (t.entries.map fun entry => renderEntry (loggedEntry entry)) lines

namespace Dialogue.Written

variable {sink : String} {w w' : World} {t d : Dialogue} {payload : Payload}

theorem act (a : Act) (h : Written sink (w.perform a).2 (w'.perform a).2 t d) :
    Written sink w w' t d := by
  obtain ⟨hexchanges, hlast, own, lines, hown, hlines, hshuffle⟩ := h
  rw [World.linesOf_perform, List.append_assoc] at hown hlines
  exact ⟨hexchanges, hlast, _, _, hown, hlines, hshuffle.append_left _⟩

theorem log {entry : Value} (hentry : payload.toValue .log = .ok entry) (answer : Value)
    (h : Written sink w (w'.perform (.write sink (renderEntry (loggedEntry entry)))).2 t d) :
    Written sink w w' (t.after [(⟨.log, payload⟩, answer)]) d := by
  obtain ⟨hexchanges, hlast, own, lines, hown, hlines, hshuffle⟩ := h
  rw [World.linesOf_perform, List.append_assoc, Act.linesTo, if_pos rfl] at hlines
  refine ⟨hexchanges.trans (outward_log t answer).symm, hlast, own, _, hown, hlines, ?_⟩
  rw [entries_log t hentry]
  exact .right _ hshuffle

theorem answered {kind : Kind} (h : Written sink w w' t d) (hkind : kind ≠ .log) (v : Value) :
    Written sink w w' (t.after [(⟨kind, payload⟩, v)]) (d.after [(⟨kind, payload⟩, v)]) where
  exchanges := by
    rw [outward_of_ne t hkind, ← h.exchanges]
    rfl
  last := h.last
  lines := by
    rw [entries_of_ne t hkind]
    exact h.lines

theorem reported (events : List Event) (h : Written sink w (w'.reported events) t d) :
    Written sink w w' t d :=
  ⟨h.exchanges, h.last, h.lines⟩

/-- A dialogue that is over at once. -/
theorem stopped {last last' : Step} (hlast : last'.observed = last.observed) (left : List Value) :
    Written sink w w' ⟨[], last, left, w⟩ ⟨[], last', left, w'⟩ :=
  ⟨rfl, hlast, [], [], (List.append_nil _).symm, (List.append_nil _).symm, .nil⟩

end Dialogue.Written

namespace Run

variable {kind : Kind} {payload : Payload} {rest : Process}

theorem handledBy_logHandler_log (sink : Sink) {entry : Value}
    (hentry : payload.toValue .log = .ok entry) :
    (Run.suspended .log payload rest).handledBy (logHandler sink) =
      .reporting .trace "dispatching command to handler" [("kind", Kind.log.shown)] fun _ =>
        .act (sink.write (loggedEntry entry)) fun _ =>
          (rest.advance .null).handledBy (logHandler sink) := by
  have hkind : Kind.log = (logHandler sink).kind := rfl
  have hhandle : (logHandler sink).handle payload =
      .act (sink.write (loggedEntry entry)) fun _ => .ended .null := by
    simp only [logHandler, logEntry_of_value hentry]
  rw [Run.handledBy, if_pos hkind, hhandle, ← Process.advance_handledBy]
  rfl

theorem handledBy_logHandler_refused (rest : Process) (sink : Sink) {failure : Failure}
    (hpayload : payload.toValue .log = .error failure) :
    ∃ rest' : Process, (Run.suspended .log payload rest).handledBy (logHandler sink) =
      .reporting .trace "dispatching command to handler" [("kind", Kind.log.shown)] fun _ =>
        .releasing payload.held fun _ => .failed failure rest' := by
  have hkind : Kind.log = (logHandler sink).kind := rfl
  have hhandle : (logHandler sink).handle payload =
      .releasing payload.held fun _ => .aborted failure := by
    simp only [logHandler, logEntry_of_refused hpayload]
  rw [Run.handledBy, if_pos hkind, hhandle]
  cases payload.held <;> exact ⟨_, rfl⟩

theorem handledBy_logHandler_of_ne (sink : Sink) (hkind : kind ≠ .log) :
    (Run.suspended kind payload rest).handledBy (logHandler sink) =
      .reporting .trace "passing command through"
        [("kind", kind.shown), ("handling", Kind.log.shown)]
        fun _ => .suspended kind payload (rest.handledBy (logHandler sink)) := by
  have hkind' : kind ≠ (logHandler sink).kind := hkind
  rw [Run.handledBy, if_neg hkind']
  rfl

/-- The writing logger writes the entries of the dialogue in which they are acknowledged. -/
theorem written_handledBy (sink : String) (r : Run) {w w' : World}
    (hw : w.unwritten = w'.unwritten) (answers : List Value) :
    Dialogue.Written sink w w' (r.acknowledged w answers)
      ((r.handledBy (logHandler (.memory sink))).dialogue w' answers) := by
  induction r using Run.induct generalizing w w' answers with
  | act a next ih =>
    obtain ⟨hanswer, hworld⟩ := World.unwritten_perform hw a
    refine .act a ?_
    rw [Run.acknowledged, Run.handledBy, Run.dialogue, ← hanswer]
    exact ih _ hworld answers
  | suspended kind payload rest ih =>
    by_cases hkind : kind = .log
    · subst hkind
      cases hentry : payload.toValue .log with
      | ok entry =>
        rw [handledBy_logHandler_log (.memory sink) hentry, dialogue_reporting,
          acknowledged_log hentry]
        have hwritten : w.unwritten = ((w'.reported [⟨.trace, "dispatching command to handler",
          [("kind", Kind.log.shown)], false⟩]).perform
            (.write sink (renderEntry (loggedEntry entry)))).2.unwritten := hw
        exact .reported _ (.log hentry .null (ih .null hwritten answers))
      | error failure =>
        obtain ⟨rest', hrefused⟩ := handledBy_logHandler_refused rest (.memory sink) hentry
        rw [hrefused, dialogue_reporting, dialogue_releasing, acknowledged_refused hentry]
        exact .reported _ (.act (.release payload.held) (.stopped (by rfl) answers))
    · have hreported : w.unwritten = (w'.reported [⟨.trace, "passing command through",
          [("kind", kind.shown), ("handling", Kind.log.shown)], false⟩]).unwritten := hw
      rw [handledBy_logHandler_of_ne (.memory sink) hkind, dialogue_reporting]
      cases answers with
      | nil =>
        rw [acknowledged_unanswered hkind]
        exact .reported _ (.stopped (by rfl) [])
      | cons v answers =>
        rw [acknowledged_answered hkind, dialogue_answered, Process.advance_handledBy]
        exact .reported _ (.answered (ih v hreported answers) hkind v)
  | completed v rest => exact .stopped (by rfl) answers
  | failed failure rest => exact .stopped (by rfl) answers

end Run

/-- The collecting and the writing logger agree. Behind both of them the process has the same
dialogue, with its log commands acknowledged, and outside both show all commands of it but these.
The one completes with a value exactly if the other completes with this value and the entries, one
for each log command; and they fail together, at the same command and with the same failure. In the
meantime the sink has got one line for each entry, in order, beside what the process itself has
written there. -/
theorem loggers_agree (c : Process) (sink : String) (w : World) (first : Value)
    (answers : List Value) :
    let t := (c.advance first).acknowledged w answers
    let collected := ((collectLogs.toLayer.apply c).advance first).dialogue w answers
    let written := (((logHandler (.memory sink)).toLayer.apply c).advance first).dialogue w answers
    let entryLines := t.entries.map fun entry => renderEntry (loggedEntry entry)
    (collected.exchanges = t.outward ∧ written.exchanges = t.outward ∧
      written.last.observed = t.last.observed ∧
      collected.last.observed = written.last.observed.withLogs t.entries) ∧
    (∀ v logs, collected.last.observed =
        .completed (.ofFields [("value", v), ("logs", .list logs)]) ↔
      written.last.observed = .completed v ∧ logs = t.entries) ∧
    (∀ failure, collected.last.observed = .failed failure ↔
      written.last.observed = .failed failure) ∧
    (∃ own lines, collected.world.linesOf sink = w.linesOf sink ++ own ∧
      written.world.linesOf sink = w.linesOf sink ++ lines ∧ Shuffle own entryLines lines) ∧
    (collected.world.linesOf sink = w.linesOf sink →
      written.world.linesOf sink = w.linesOf sink ++ entryLines) := by
  intro t collected written entryLines
  have hcollected : Dialogue.Collected [] t collected := by
    have hlayer : (collectLogs.toLayer.apply c).advance first =
        (c.advance first).threadedBy collectLogs [] := Process.advance_threadedBy _ c [] first
    simp only [collected, hlayer]
    exact Run.collected_threadedBy (c.advance first) [] rfl answers
  have hwritten : Dialogue.Written sink w w t written := by
    have hlayer : ((logHandler (.memory sink)).toLayer.apply c).advance first =
        (c.advance first).handledBy (logHandler (.memory sink)) :=
      Process.advance_handledBy _ c first
    simp only [written, hlayer]
    exact Run.written_handledBy sink (c.advance first) rfl answers
  have hlast : collected.last.observed = written.last.observed.withLogs t.entries := by
    rw [hcollected.last, hwritten.last, List.nil_append]
  have hquiet : collected.world.linesOf sink = t.world.linesOf sink := by
    obtain ⟨events, heq, -⟩ := World.eq_of_quiet_eq hcollected.world
    rw [heq]
    rfl
  obtain ⟨own, lines, hown, hlines, hshuffle⟩ := hwritten.lines
  rw [← hquiet] at hown
  refine ⟨⟨hcollected.exchanges, hwritten.exchanges, hwritten.last, hlast⟩, fun v logs => ?_,
    fun failure => ?_, ⟨own, lines, hown, hlines, hshuffle⟩, fun hunused => ?_⟩
  · rw [hlast]
    exact Observed.withLogs_eq_completed_iff
  · rw [hlast]
    exact Observed.withLogs_eq_failed_iff
  · rw [hunused] at hown
    obtain rfl : own = [] := List.self_eq_append_right.mp hown
    rw [hlines, hshuffle.eq_of_nil_left]

end Effects
