import Effects.Instrument
import Effects.Proofs.Commuting
import Effects.Proofs.Dialogue

/-!
# Transcripts of a handler at work

What is said outside while a handler answers the commands of a process is written down in a
`Transcript`: all commands with their answers, and between them the places at which the handler has
answered a command and an instrumented one asks for a log entry. The plain handler shows the
transcript without these places (`Transcript.plain`), the instrumented one shows all of it
(`Transcript.described`).

Both layers put a run in the place of each command that they recognise, and differ only in what
comes between the value of that run and the rest of the process. So each of them is alike to one and
the same recursion on the process, `Run.delegating`, in which nothing is reported and nothing is
wrapped; of this the dialogue can be computed, command by command.
-/

namespace Effects

/-! ## Contexts that wait for a value -/

theorem Frame.run_endsAs_failed (frame : Frame) {r : Run} {failure : Failure}
    (h : r.EndsAs (.failed failure)) : (frame.run r).EndsAs (.failed failure) := by
  generalize hobserved : Observed.failed failure = observed at h
  induction h with
  | completed v rest => cases hobserved
  | failed failure' rest =>
    cases hobserved
    exact frame.endsAs_failed failure rest
  | @released claims next observed h ih =>
    have hrun := frame.run_act (.release claims) next
    exact hrun ▸ .released claims (ih hobserved)

namespace Context

theorem endsAs_failed (context : Context) (failure : Failure) (rest : Process) :
    (run context (.failed failure rest)).EndsAs (.failed failure) := by
  induction context with
  | nil => exact .failed failure rest
  | cons frame context ih => exact frame.run_endsAs_failed ih

/-- Two contexts that answer no command are alike around the same run, if they go on alike with a
value. -/
theorem alike_run (context context' : Context)
    (hadmits : ∀ kind, ∀ frame ∈ context, frame.Admits kind)
    (hadmits' : ∀ kind, ∀ frame ∈ context', frame.Admits kind)
    (hcompleted : ∀ v rest,
      (run context (.completed v rest)).Alike (run context' (.completed v rest)))
    (r : Run) : (run context r).Alike (run context' r) := by
  induction r using Run.induct with
  | act a next ih =>
    rw [run_act, run_act]
    exact .act a ih
  | suspended kind payload rest ih =>
    rw [run_suspended (hadmits kind), run_suspended (hadmits' kind)]
    refine .reportedAllLeft (fun _ => isLog_reports) (.reportedAllRight (fun _ => isLog_reports)
      (.suspended kind payload fun v => ?_))
    rw [advance_process, advance_process]
    exact ih v
  | completed v rest => exact hcompleted v rest
  | failed failure rest =>
    exact .ended (context.endsAs_failed failure rest) (context'.endsAs_failed failure rest)

/-- A context that answers no command is a step of a loop, if it goes on with a value as the loop
does. -/
theorem alike_step (context : Context) {next : Value → Run}
    (hadmits : ∀ kind, ∀ frame ∈ context, frame.Admits kind)
    (hcompleted : ∀ v rest,
      (run context (.completed v rest)).Alike (.releasing rest.held fun _ => next v))
    (r : Run) : (run context r).Alike (r.step [] next) := by
  have hloop : ∀ kind, ∀ frame ∈ [Frame.looping [] next], frame.Admits kind := by
    simp [Frame.Admits]
  exact alike_run context [.looping [] next] hadmits hloop hcompleted r

end Context

/-! ## Commands answered by runs -/

mutual

/-- A process in which each command of a kind is replaced by the run of a handler. The process goes
on with the value of that run, after what `after` makes of the input, the value and the rest. -/
def Process.delegating (h : Handler) (after : Value → Value → Run → Run) : Process → Process
  | .spent held => .spent held
  | .paused held resume => .paused held fun input => (resume input).delegating h after

/-- A run in which each command of a kind is replaced by the run of a handler. -/
def Run.delegating (h : Handler) (after : Value → Value → Run → Run) : Run → Run
  | .act a rest => .act a fun answer => (rest answer).delegating h after
  | .suspended kind payload rest =>
    if kind = h.kind then
      (h.handle payload).step [] fun output =>
        after (payload.asValue?.getD .null) output ((rest.delegating h after).advance output)
    else .suspended kind payload (rest.delegating h after)
  | .completed value rest => .completed value rest
  | .failed failure rest => .failed failure rest

end

theorem Process.advance_delegating (h : Handler) (after : Value → Value → Run → Run) (p : Process)
    (v : Value) : (p.delegating h after).advance v = (p.advance v).delegating h after := by
  cases p <;> rfl

/-- Asks for a log entry about input and output, and goes on. -/
def Run.describing (describe : Value → Value → List Value) (input output : Value) (r : Run) : Run :=
  .suspended .log (.value (.list (describe input output))) (.paused [] fun _ => r)

/-- A layer replaces commands by the runs of a handler, if its own handler does so while the process
waits. -/
theorem Run.alike_delegating {g h : Handler} {after : Value → Value → Run → Run}
    (hkind : g.kind = h.kind)
    (hserving : ∀ (payload : Payload) (inner : Process) (next : Value → Run),
      (∀ v, (inner.advance v).Alike (next v)) →
      (Run.serving h.kind inner (g.handle payload)).Alike
        ((h.handle payload).step [] fun v => after (payload.asValue?.getD .null) v (next v)))
    (r : Run) : (r.handledBy g).Alike (r.delegating h after) := by
  induction r using Run.induct with
  | act a next ih => exact .act a ih
  | suspended kind payload rest ih =>
    rw [Run.handledBy, Run.delegating, hkind]
    by_cases hkind' : kind = h.kind
    · rw [if_pos hkind', if_pos hkind']
      refine .reportedLeft rfl (hserving payload _ _ fun v => ?_)
      rw [Process.advance_handledBy, Process.advance_delegating]
      exact ih v
    · rw [if_neg hkind', if_neg hkind']
      refine .reportedLeft rfl (.suspended kind payload fun v => ?_)
      rw [Process.advance_handledBy, Process.advance_delegating]
      exact ih v
  | completed v rest => exact .ended (.completed v _) (.completed v _)
  | failed failure rest => exact .ended (.failed failure _) (.failed failure _)

theorem Run.alike_handledBy_delegating (h : Handler) (r : Run) :
    (r.handledBy h).Alike (r.delegating h fun _ _ next => next) := by
  refine Run.alike_delegating rfl (fun payload inner next hinner => ?_) r
  refine Context.alike_step [.serving h.kind inner] (fun kind frame hframe => ?_)
    (fun v rest => ?_) (h.handle payload)
  · obtain rfl := List.mem_singleton.mp hframe
    trivial
  · show (Run.releasing rest.held fun _ => inner.advance v).Alike
      (.releasing rest.held fun _ => next v)
    exact .releasing rest.held (hinner v)

theorem Run.alike_instrument_delegating (h : Handler) (describe : Value → Value → List Value)
    (r : Run) :
    (r.handledBy (h.instrument describe)).Alike (r.delegating h (Run.describing describe)) := by
  have hkind : (h.instrument describe).kind = h.kind := rfl
  refine Run.alike_delegating hkind (fun payload inner next hinner => ?_) r
  let logging (output : Value) : Process :=
    (log (describe (payload.asValue?.getD .null) output)).map fun _ => .done output
  refine Context.alike_step [.serving h.kind inner, .first [] fun output => .done (logging output)]
    (fun kind frame hframe => ?_) (fun v rest => ?_) (h.handle payload)
  · rcases List.mem_pair.mp hframe with rfl | rfl <;> trivial
  · show (Frame.run (.serving h.kind inner)
      (.releasing rest.held fun _ => (logging v).start.dropAtEnd)).Alike _
    rw [Frame.run_releasing]
    refine .releasing rest.held (.reportedLeft rfl (.suspended _ _ fun reply => ?_))
    exact hinner v

theorem Process.alike_handledBy_delegating (h : Handler) (p : Process) :
    (p.handledBy h).Alike (p.delegating h fun _ _ next => next) := by
  intro v
  rw [Process.advance_handledBy, Process.advance_delegating]
  exact Run.alike_handledBy_delegating h (p.advance v)

theorem Process.alike_instrument_delegating (h : Handler) (describe : Value → Value → List Value)
    (p : Process) :
    (p.handledBy (h.instrument describe)).Alike (p.delegating h (Run.describing describe)) := by
  intro v
  rw [Process.advance_handledBy, Process.advance_delegating]
  exact Run.alike_instrument_delegating h describe (p.advance v)

/-! ## Transcripts -/

/-- Something that is said outside while a handler answers the commands of a process. -/
inductive Exchange where
  /-- A command of the process or of the handler, and its answer. -/
  | own (command : Command) (answer : Value)
  /-- The handler has answered a command with the given input: the process goes on with `output`.
  Here a log entry may be asked for, and `reply` would be the answer to that. -/
  | handled (input output reply : Value)

namespace Exchange

/-- A command and its answer. -/
def own? : Exchange → Option (Command × Value)
  | own command answer => some (command, answer)
  | handled _ _ _ => none

/-- The command that is yielded, if answers of the handler are described in the log. -/
def command (describe : Value → Value → List Value) : Exchange → Command
  | own command _ => command
  | handled input output _ => ⟨.log, .value (.list (describe input output))⟩

/-- What the command is answered with. -/
def answer : Exchange → Value
  | own _ answer => answer
  | handled _ _ reply => reply

end Exchange

/-- What is said outside while a handler answers the commands of a process. -/
structure Transcript where
  /-- The commands, and in between the answers of the handler. -/
  exchanges : List Exchange
  /-- What the last advance showed. -/
  last : Observed

namespace Transcript

/-- The commands and their answers. -/
def own (t : Transcript) : List (Command × Value) := t.exchanges.filterMap Exchange.own?

/-- What is seen if no log entries are asked for. -/
def plain (t : Transcript) : List Observed :=
  t.own.map (fun exchange => .suspended exchange.1) ++ [t.last]

/-- What is seen if the answers of the handler are described in the log. -/
def described (describe : Value → Value → List Value) (t : Transcript) : List Observed :=
  t.exchanges.map (fun exchange => .suspended (exchange.command describe)) ++ [t.last]

/-- A transcript that comes after some exchanges. -/
def after (earlier : List Exchange) (t : Transcript) : Transcript :=
  { t with exchanges := earlier ++ t.exchanges }

/-- The commands of a dialogue, with their answers. -/
def ofDialogue (d : Dialogue) : List Exchange :=
  d.exchanges.map fun exchange => .own exchange.1 exchange.2

/-! What is said by a handler that answers a command comes before the rest. -/

section

variable (d : Dialogue) (input output reply : Value) (t : Transcript)

theorem plain_handled :
    (t.after (ofDialogue d ++ [.handled input output reply])).plain =
      d.exchanges.map (fun exchange => .suspended exchange.1) ++ t.plain := by
  have hown : (ofDialogue d ++ [Exchange.handled input output reply]).filterMap Exchange.own? =
      d.exchanges := by
    simp [ofDialogue, List.filterMap_map, Function.comp_def, Exchange.own?]
  rw [plain, own, after, List.filterMap_append, hown, List.map_append, List.append_assoc]
  rfl

theorem described_handled (describe : Value → Value → List Value) :
    (t.after (ofDialogue d ++ [.handled input output reply])).described describe =
      d.exchanges.map (fun exchange => .suspended exchange.1) ++
        .suspended ⟨.log, .value (.list (describe input output))⟩ :: t.described describe := by
  simp [described, after, ofDialogue, Function.comp_def, Exchange.command]

theorem answers_handled :
    (t.after (ofDialogue d ++ [.handled input output reply])).exchanges.map Exchange.answer =
      d.used ++ reply :: t.exchanges.map Exchange.answer := by
  simp [after, ofDialogue, Dialogue.used, Function.comp_def, Exchange.answer]

end

theorem plain_stopped (d : Dialogue) : plain ⟨ofDialogue d, d.last.observed⟩ = d.observed := by
  simp [plain, own, ofDialogue, List.filterMap_map, Function.comp_def, Exchange.own?,
    Dialogue.observed]

theorem described_stopped (describe : Value → Value → List Value) (d : Dialogue) :
    described describe ⟨ofDialogue d, d.last.observed⟩ = d.observed := by
  simp [described, ofDialogue, Function.comp_def, Exchange.command, Dialogue.observed]

theorem answers_ofDialogue (d : Dialogue) : (ofDialogue d).map Exchange.answer = d.used := by
  simp [ofDialogue, Dialogue.used, Function.comp_def, Exchange.answer]

end Transcript

mutual

/-- The transcript of a process that is advanced with a value. -/
def Process.transcript (h : Handler) :
    Process → Value → World → (answers replies : List Value) → Transcript
  | .spent _, _, _, _, _ => ⟨[], .failed .alreadyCompleted⟩
  | .paused _ resume, v, w, answers, replies => (resume v).transcript h w answers replies

/-- The transcript of a run. A command of the handler's kind is answered by a run of the handler: if
this run ends with a value, the process goes on with it, and otherwise that is the end. All other
commands are answered by `answers`. What a log entry would be answered with is in `replies`, and
after these `null`. -/
def Run.transcript (h : Handler) : Run → World → (answers replies : List Value) → Transcript
  | .act a next, w, answers, replies =>
    (next (w.perform a).1).transcript h (w.perform a).2 answers replies
  | .suspended kind payload rest, w, answers, replies =>
    if kind = h.kind then
      let d := (h.handle payload).dialogue w answers
      match d.last with
      | .completed output done =>
        (rest.transcript h output (d.world.release done.held) d.left replies.tail).after
          (Transcript.ofDialogue d ++
            [.handled (payload.asValue?.getD .null) output (replies.headD .null)])
      | stopped => ⟨Transcript.ofDialogue d, stopped.observed⟩
    else
      match answers with
      | [] => ⟨[], .suspended ⟨kind, payload⟩⟩
      | v :: answers => (rest.transcript h v w answers replies).after [.own ⟨kind, payload⟩ v]
  | .completed v _, _, _, _ => ⟨[], .completed v⟩
  | .failed failure _, _, _, _ => ⟨[], .failed failure⟩

end

theorem Process.transcript_eq (h : Handler) (p : Process) (v : Value) (w : World)
    (answers replies : List Value) :
    p.transcript h v w answers replies = (p.advance v).transcript h w answers replies := by
  cases p <;> rfl

namespace Run

variable {h : Handler} {kind : Kind} {payload : Payload} {rest : Process} {w : World}
  {answers : List Value}

theorem transcript_handled (hkind : kind = h.kind) {output : Value} {done : Process}
    (hlast : ((h.handle payload).dialogue w answers).last = .completed output done)
    (replies : List Value) :
    (Run.suspended kind payload rest).transcript h w answers replies =
      ((rest.advance output).transcript h
          (((h.handle payload).dialogue w answers).world.release done.held)
          ((h.handle payload).dialogue w answers).left replies.tail).after
        (Transcript.ofDialogue ((h.handle payload).dialogue w answers) ++
          [.handled (payload.asValue?.getD .null) output (replies.headD .null)]) := by
  rw [Run.transcript.eq_def]
  simp only [if_pos hkind, hlast, Process.transcript_eq]

/-- After the answers that the handler has used, any others may follow. -/
theorem transcript_handled_used (hkind : kind = h.kind) {output : Value} {done : Process}
    (hlast : ((h.handle payload).dialogue w answers).last = .completed output done)
    (more replies : List Value) :
    (Run.suspended kind payload rest).transcript h w
        (((h.handle payload).dialogue w answers).used ++ more) replies =
      ((rest.advance output).transcript h
          (((h.handle payload).dialogue w answers).world.release done.held) more replies.tail).after
        (Transcript.ofDialogue ((h.handle payload).dialogue w answers) ++
          [.handled (payload.asValue?.getD .null) output (replies.headD .null)]) := by
  rw [transcript_handled hkind (last_dialogue_used hlast more),
    dialogue_used_of_completed hlast more]
  rfl

theorem transcript_stopped (hkind : kind = h.kind)
    (hlast : ∀ output done, ((h.handle payload).dialogue w answers).last ≠ .completed output done)
    (replies : List Value) :
    (Run.suspended kind payload rest).transcript h w answers replies =
      ⟨Transcript.ofDialogue ((h.handle payload).dialogue w answers),
        ((h.handle payload).dialogue w answers).last.observed⟩ := by
  rw [Run.transcript.eq_def]
  simp only [if_pos hkind]

theorem transcript_answered (hkind : kind ≠ h.kind) (v : Value) (replies : List Value) :
    (Run.suspended kind payload rest).transcript h w (v :: answers) replies =
      ((rest.advance v).transcript h w answers replies).after [.own ⟨kind, payload⟩ v] := by
  rw [Run.transcript.eq_def]
  simp only [if_neg hkind, Process.transcript_eq]

theorem transcript_unanswered (hkind : kind ≠ h.kind) (replies : List Value) :
    (Run.suspended kind payload rest).transcript h w [] replies =
      ⟨[], .suspended ⟨kind, payload⟩⟩ := by
  rw [Run.transcript.eq_def]
  simp only [if_neg hkind]

theorem delegating_handled (hkind : kind = h.kind) (after : Value → Value → Run → Run) :
    (Run.suspended kind payload rest).delegating h after =
      (h.handle payload).step [] fun output =>
        after (payload.asValue?.getD .null) output ((rest.advance output).delegating h after) := by
  simp only [Run.delegating, if_pos hkind, Process.advance_delegating]

theorem delegating_of_ne (hkind : kind ≠ h.kind) (after : Value → Value → Run → Run) :
    (Run.suspended kind payload rest).delegating h after =
      .suspended kind payload (rest.delegating h after) := by
  rw [Run.delegating, if_neg hkind]

/-- Without log entries, a transcript shows what the process and the handler ask for. -/
theorem observed_delegating (h : Handler) (r : Run) (w : World) (answers replies : List Value) :
    ((r.delegating h fun _ _ next => next).dialogue w answers).observed =
      (r.transcript h w answers replies).plain := by
  induction r using Run.induct generalizing w answers replies with
  | act a next ih => exact ih (w.perform a).1 (w.perform a).2 answers replies
  | suspended kind payload rest ih =>
    by_cases hkind : kind = h.kind
    · rw [delegating_handled hkind]
      rcases ((h.handle payload).dialogue w answers).last.completed_or_not with
        ⟨output, done, hlast⟩ | hlast
      · rw [dialogue_step hlast, Dialogue.observed_after, transcript_handled hkind hlast,
          Transcript.plain_handled, ih output _ _ replies.tail]
      · rw [observed_dialogue_step hlast, transcript_stopped hkind hlast, Transcript.plain_stopped]
    · rw [delegating_of_ne hkind]
      cases answers with
      | nil =>
        rw [transcript_unanswered hkind]
        rfl
      | cons v answers =>
        rw [transcript_answered hkind, dialogue_answered, Process.advance_delegating]
        exact congrArg (List.cons _) (ih v w answers replies)
  | completed | failed => rfl

/-- After the run of the handler, the reply to the log entry comes next. -/
theorem observed_step_describing {describe : Value → Value → List Value} {input output : Value}
    {next : Value → Run} {answers : List Value} {done : Process}
    (hlast : ((h.handle payload).dialogue w answers).last = .completed output done)
    (reply : Value) (later : List Value) :
    (((h.handle payload).step [] fun output =>
        describing describe input output (next output)).dialogue w
          (((h.handle payload).dialogue w answers).used ++ reply :: later)).observed =
      ((h.handle payload).dialogue w answers).exchanges.map
          (fun exchange => .suspended exchange.1) ++
        .suspended ⟨.log, .value (.list (describe input output))⟩ ::
          ((next output).dialogue
            (((h.handle payload).dialogue w answers).world.release done.held) later).observed := by
  rw [dialogue_step (last_dialogue_used hlast (reply :: later)),
    dialogue_used_of_completed hlast (reply :: later), Dialogue.observed_after, describing,
    dialogue_answered, Dialogue.observed_after]
  rfl

/-- With log entries, a transcript shows all of it. -/
theorem observed_delegating_describing (h : Handler) (describe : Value → Value → List Value)
    (r : Run) (w : World) (answers replies : List Value) :
    ((r.delegating h (describing describe)).dialogue w
        ((r.transcript h w answers replies).exchanges.map Exchange.answer)).observed =
      (r.transcript h w answers replies).described describe := by
  induction r using Run.induct generalizing w answers replies with
  | act a next ih => exact ih (w.perform a).1 (w.perform a).2 answers replies
  | suspended kind payload rest ih =>
    by_cases hkind : kind = h.kind
    · rw [delegating_handled hkind]
      rcases ((h.handle payload).dialogue w answers).last.completed_or_not with
        ⟨output, done, hlast⟩ | hlast
      · rw [transcript_handled hkind hlast, Transcript.answers_handled,
          Transcript.described_handled, observed_step_describing hlast, ih output]
      · have hreplay := dialogue_used (h.handle payload) w answers [] fun _ _ _ => rfl
        rw [List.append_nil] at hreplay
        have hstop : ∀ output done, ((h.handle payload).dialogue w
            ((h.handle payload).dialogue w answers).used).last ≠ .completed output done := by
          rw [hreplay]
          exact hlast
        rw [transcript_stopped hkind hlast, Transcript.answers_ofDialogue,
          observed_dialogue_step hstop, hreplay, Transcript.described_stopped]
        rfl
    · rw [delegating_of_ne hkind]
      cases answers with
      | nil =>
        rw [transcript_unanswered hkind]
        rfl
      | cons v answers =>
        rw [transcript_answered hkind]
        show ((Run.suspended kind payload (rest.delegating h (describing describe))).dialogue w
          (v :: _)).observed = _
        rw [dialogue_answered, Process.advance_delegating]
        exact congrArg (List.cons _) (ih v w answers replies)
  | completed | failed => rfl

/-- Whatever an instrumented handler and its process are answered with, they show the beginning of a
transcript. -/
theorem exists_observed_prefix (h : Handler) (describe : Value → Value → List Value) (r : Run)
    (w : World) (inputs : List Value) :
    ∃ answers replies, ((r.delegating h (describing describe)).dialogue w inputs).observed <+:
      (r.transcript h w answers replies).described describe := by
  induction r using Run.induct generalizing w inputs with
  | act a next ih => exact ih (w.perform a).1 (w.perform a).2 inputs
  | suspended kind payload rest ih =>
    by_cases hkind : kind = h.kind
    · rw [delegating_handled hkind]
      rcases ((h.handle payload).dialogue w inputs).last.completed_or_not with
        ⟨output, done, hlast⟩ | hlast
      · rw [dialogue_step hlast, Dialogue.observed_after]
        cases hleft : ((h.handle payload).dialogue w inputs).left with
        | nil =>
          refine ⟨((h.handle payload).dialogue w inputs).used ++ [], [], ?_⟩
          rw [transcript_handled_used hkind hlast, Transcript.described_handled]
          exact (List.prefix_append_right_inj _).mpr
            (List.cons_prefix_cons.mpr ⟨rfl, List.nil_prefix⟩)
        | cons reply left =>
          obtain ⟨answers, replies, hprefix⟩ := ih output _ left
          refine ⟨((h.handle payload).dialogue w inputs).used ++ answers, reply :: replies, ?_⟩
          rw [transcript_handled_used hkind hlast, Transcript.described_handled, describing,
            dialogue_answered]
          exact (List.prefix_append_right_inj _).mpr (List.cons_prefix_cons.mpr ⟨rfl, hprefix⟩)
      · -- the handler has stopped, so the transcript is over: nothing is missing
        refine ⟨inputs, [], [], ?_⟩
        rw [List.append_nil, observed_dialogue_step hlast, transcript_stopped hkind hlast,
          Transcript.described_stopped]
    · rw [delegating_of_ne hkind]
      cases inputs with
      | nil =>
        refine ⟨[], [], ?_⟩
        rw [transcript_unanswered hkind]
        exact List.prefix_rfl
      | cons v inputs =>
        obtain ⟨answers, replies, hprefix⟩ := ih v w inputs
        refine ⟨v :: answers, replies, ?_⟩
        rw [transcript_answered hkind, dialogue_answered, Process.advance_delegating]
        exact List.cons_prefix_cons.mpr ⟨rfl, hprefix⟩
  | completed | failed => exact ⟨[], [], List.prefix_rfl⟩

end Run

end Effects
