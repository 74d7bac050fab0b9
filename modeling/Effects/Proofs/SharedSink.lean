import Effects.Proofs.Company
import Effects.Proofs.Staying

/-!
# One sink for several computations

Computations under stacks of their own log to one sink. Alone, each of them ends as it does in one
piece; the serials of its tokens are all that may differ from one run to the next. Side by side each
ends as it does alone, and the sink has got a shuffle of what they have written. A machine that has
the bridges as its tasks chooses one order of their turns.
-/

namespace Effects

/-! ## What comes of a deferred operation -/

/-- The outcome that comes, or has come, over a channel to which one is assigned. -/
def ChannelState.heard (assigned : Outcome) : ChannelState → Outcome
  | .sent outcome => outcome
  | _ => assigned

theorem ChannelState.heard_givenUp (assigned : Outcome) (state : ChannelState) :
    state.givenUp.heard assigned = state.heard assigned := by
  cases state <;> rfl

theorem ChannelState.heard_settled (assigned : Outcome) (state : ChannelState) :
    (state.settled assigned).heard assigned = state.heard assigned := by
  cases state <;> rfl

namespace World

variable (outcomes : Channel → Outcome)

/-- The outcomes that come, or have come, over the channels. -/
def heard (w : World) (channel : Channel) : Outcome :=
  (w.channelState channel).heard (outcomes channel)

theorem heard_perform (w : World) (a : Act) :
    (w.perform a).2.heard outcomes = w.heard outcomes := by
  funext channel
  rcases channelState_perform a channel with hsame | hgiven
  · rw [heard, hsame, heard]
  · rw [heard, hgiven, ChannelState.heard_givenUp, heard]

theorem heard_sent (w : World) (channel : Channel) :
    (w.sent channel (outcomes channel)).heard outcomes = w.heard outcomes := by
  funext other
  rw [heard, channelState_sent]
  split
  · next heq => rw [heq, ChannelState.heard_settled, heard]
  · rfl

/-! ## Alone, in one piece -/

theorem releaseOne_withSerial (w : World) (serial : Nat) (claim : Claim) :
    (w.withSerial serial).releaseOne claim = (w.releaseOne claim).withSerial serial := by
  cases claim with
  | scope token => rfl
  | receiver channel =>
    have hstate : (w.withSerial serial).channelState channel = w.channelState channel := rfl
    simp only [releaseOne, hstate]
    split <;> rfl

theorem release_withSerial (w : World) (serial : Nat) (claims : List Claim) :
    (w.withSerial serial).release claims = (w.release claims).withSerial serial := by
  induction claims generalizing w with
  | nil => rfl
  | cons claim claims ih =>
    show ((w.withSerial serial).releaseOne claim).release claims = _
    rw [releaseOne_withSerial, ih]
    rfl

/-- An act that mints nothing does not depend on the number of the next token. -/
theorem perform_withSerial (w : World) (serial : Nat) {a : Act} (ha : a.mints = 0) :
    (w.withSerial serial).perform a = ((w.perform a).1, (w.perform a).2.withSerial serial) := by
  cases a with
  | mint => cases ha
  | release claims => exact congrArg (Prod.mk ()) (w.release_withSerial serial claims)
  | attempt store request =>
    have hstores : (w.withSerial serial).stores = w.stores := rfl
    simp only [perform, hstores]
    cases w.stores.lookup store <;> rfl
  | _ => rfl

/-- The worlds differ in nothing but reports, deferred operations and the number of the next
token. -/
def Alike (w w' : World) : Prop := ∃ serial, (w.withSerial serial).unheard = w'.unheard

/-- The world in which an act that mints a token gets the first of the serials for it. -/
def numberedBy (w : World) (serials : List Nat) : Act → World
  | .mint => w.withSerial (serials.headD 0)
  | _ => w

theorem numberedBy_of_mints {a : Act} (ha : a.mints = 0) (w : World) (serials : List Nat) :
    w.numberedBy serials a = w := by
  cases a with
  | mint => cases ha
  | _ => rfl

/-- With the number that the next token has anyway, nothing changes. -/
theorem numberedBy_self (w : World) (a : Act) (serials : List Nat) :
    w.numberedBy (List.range' w.nextSerial a.mints ++ serials) a = w := by
  cases a <;> rfl

theorem Alike.perform {w w' : World} (h : w.Alike w') (serials : List Nat) (a : Act) :
    ((w.numberedBy serials a).perform a).1 = ((w'.numberedBy serials a).perform a).1 ∧
      ((w.numberedBy serials a).perform a).2.Alike ((w'.numberedBy serials a).perform a).2 := by
  obtain ⟨serial, hserial⟩ := h
  by_cases hmints : a.mints = 0
  · rw [numberedBy_of_mints hmints, numberedBy_of_mints hmints]
    obtain ⟨hanswer, hworld⟩ := unheard_perform hserial a
    rw [perform_withSerial w serial hmints] at hanswer hworld
    exact ⟨hanswer, serial, hworld⟩
  · cases a with
    | mint =>
      have hsame : (w.numberedBy serials .mint).unheard = (w'.numberedBy serials .mint).unheard :=
        congrArg (withSerial · (serials.headD 0)) hserial
      obtain ⟨hanswer, hworld⟩ := unheard_perform hsame .mint
      exact ⟨hanswer, _, hworld⟩
    | _ => exact (hmints rfl).elim

end World

/-- How the operation ends in one piece, and which lines the sink has then, if its tokens get the
serials: pauses take no time, and every deferred operation has the outcome assigned to it. -/
def Operation.endWith (outcomes : Channel → Outcome) (sink : String) :
    Operation → List Nat → World → Outcome × List String
  | .settled outcome, _, w => (outcome, w.linesOf sink)
  | .act a next, serials, w =>
    let answered := (w.numberedBy serials a).perform a
    (next answered.1).endWith outcomes sink (serials.drop a.mints) answered.2
  | .sleep _ _ next, serials, w => next.endWith outcomes sink serials w
  | .receive channel _ next, serials, w => (next (outcomes channel)).endWith outcomes sink serials w

theorem Operation.endWith_congr {outcomes : Channel → Outcome} {sink : String} (op : Operation)
    (serials : List Nat) {w w' : World} (h : w.Alike w') :
    op.endWith outcomes sink serials w = op.endWith outcomes sink serials w' := by
  induction op generalizing serials w w' with
  | settled outcome =>
    obtain ⟨serial, hserial⟩ := h
    have hlines : (w.withSerial serial).unheard.linesOf sink = w'.unheard.linesOf sink := by
      rw [hserial]
    exact congrArg (Prod.mk outcome) hlines
  | act a next ih =>
    obtain ⟨hanswer, hworld⟩ := h.perform serials a
    rw [endWith, endWith, hanswer]
    exact ih _ _ hworld
  | sleep ms held next ih => exact ih serials h
  | receive channel held next ih => exact ih _ serials h

/-- Whatever its acts answer, the operation mints no tokens. -/
def Operation.Mintless : Operation → Prop
  | .settled _ => True
  | .act a next => a.mints = 0 ∧ ∀ answer, (next answer).Mintless
  | .sleep _ _ next => next.Mintless
  | .receive _ _ next => ∀ outcome, (next outcome).Mintless

theorem Operation.Mintless.mints {op : Operation} (h : op.Mintless) : op.mints = 0 := by
  cases op with
  | act a next => exact h.1
  | settled | sleep | receive => rfl

theorem Operation.Mintless.turn {op : Operation} (h : op.Mintless) (w : World) :
    (op.turn w).1.Mintless := by
  cases op with
  | settled outcome => trivial
  | act a next => exact h.2 _
  | sleep ms held next => exact h
  | receive channel held next =>
    rw [Operation.turn]
    split
    · exact h _
    · exact h

/-- Code only adds lines to a sink. -/
theorem World.exists_linesOf_carryOut {α : Type} (plan : Plan α) (w : World) (sink : String) :
    ∃ lines, (w.carryOut plan).2.linesOf sink = w.linesOf sink ++ lines := by
  induction plan generalizing w with
  | done a => exact ⟨[], (List.append_nil _).symm⟩
  | act a next ih =>
    obtain ⟨lines, hlines⟩ := ih (w.perform a).1 (w.perform a).2
    refine ⟨a.linesTo sink ++ lines, ?_⟩
    rw [World.carryOut_act, hlines, linesOf_perform, List.append_assoc]

namespace Calls

variable {outcomes : Channel → Outcome} {sink : String} {w : World} {first : Operation}

theorem settles_sent (outcomes : Channel → Outcome) (w : World) (channel : Channel) :
    World.Settles outcomes w (w.sent channel (outcomes channel)) := by
  obtain ⟨channels, heq⟩ := w.sent_eq channel (outcomes channel)
  refine ⟨by rw [heq]; rfl, fun other => ?_⟩
  rw [World.channelState_sent]
  by_cases hother : other = channel
  · subst hother
    cases w.channelState other <;> simp [ChannelState.settled]
  · exact .inl (if_neg hother)

/-- The only computation is on its way to an end and to a world with some lines in the sink, if the
tokens that it is still to mint get the serials. -/
structure Heads (outcomes assigned : Channel → Outcome) (sink : String)
    (result : Outcome × List String) (solo : Calls) (op : Operation) (serials : List Nat) :
    Prop where
  only : solo.ops = [op]
  heard : solo.world.heard outcomes = assigned
  heads : op.endWith assigned sink serials solo.world = result

section

variable {assigned : Channel → Outcome} {result : Outcome × List String} {solo : Calls}
  {op : Operation} {serials : List Nat}

theorem Heads.turn
    (h : Heads outcomes assigned sink result solo op
      (List.range' solo.world.nextSerial op.mints ++ serials)) :
    ∃ op', Heads outcomes assigned sink result (solo.turn 0) op' serials := by
  obtain ⟨honly, hheard, hheads⟩ := h
  have hop : solo.ops[0]? = some op := congrArg (·[0]?) honly
  obtain ⟨hops, hworld⟩ := turn_of_op hop
  rw [honly] at hops
  have hnext : (op.turn solo.world).2.heard outcomes = assigned ∧
      (op.turn solo.world).1.endWith assigned sink serials (op.turn solo.world).2 = result := by
    cases op with
    | settled outcome => exact ⟨hheard, hheads⟩
    | act a next =>
      rw [Operation.mints, Operation.endWith, World.numberedBy_self,
        List.drop_left' List.length_range'] at hheads
      exact ⟨(World.heard_perform outcomes ..).trans hheard, hheads⟩
    | sleep ms held next => exact ⟨hheard, hheads⟩
    | receive channel held next =>
      cases hstate : solo.world.channelState channel with
      | sent outcome =>
        have hassigned : assigned channel = outcome := by
          rw [← hheard, World.heard, hstate, ChannelState.heard]
        simp only [Operation.turn, hstate]
        exact ⟨hheard, hassigned ▸ hheads⟩
      | «open» | closed =>
        simp only [Operation.turn, hstate]
        exact ⟨hheard, hheads⟩
  exact ⟨_, hops, hworld ▸ hnext.1, hworld ▸ hnext.2⟩

theorem Heads.occur (event : Occurrence)
    (h : Heads outcomes assigned sink result solo op (solo.serials 0 event ++ serials)) :
    ∃ op', Heads outcomes assigned sink result (solo.occur outcomes event) op' serials := by
  cases event with
  | settle channel =>
    obtain ⟨honly, hheard, hheads⟩ := h
    have halike : solo.world.Alike (solo.world.sent channel (outcomes channel)) :=
      ⟨solo.world.nextSerial, (settles_sent outcomes solo.world channel).unheard⟩
    exact ⟨op, honly, (World.heard_sent outcomes ..).trans hheard,
      (op.endWith_congr serials halike).symm.trans hheads⟩
  | elsewhere count =>
    obtain ⟨honly, hheard, hheads⟩ := h
    have halike : solo.world.Alike (solo.world.numberedOn count) := ⟨_, rfl⟩
    exact ⟨op, honly, hheard, (op.endWith_congr serials halike).symm.trans hheads⟩
  | turn number =>
    cases number with
    | zero =>
      rw [serials_turn (congrArg (·[0]?) h.only)] at h
      exact h.turn
    | succ number =>
      have hnone : solo.occur outcomes (.turn (number + 1)) = solo :=
        turn_of_none (by simp [h.only])
      rw [hnone]
      exact ⟨op, h⟩

theorem Heads.through (own : List Occurrence)
    (h : Heads outcomes assigned sink result solo op (solo.minted outcomes 0 own ++ serials)) :
    ∃ op', Heads outcomes assigned sink result (solo.through outcomes own) op' serials := by
  induction own generalizing solo op with
  | nil => exact ⟨op, h⟩
  | cons event own ih =>
    rw [minted, List.append_assoc] at h
    obtain ⟨op', hnext⟩ := h.occur
    exact ih hnext

end

/-- A computation that is alone can be brought to its end, with the result that it has in one
piece. -/
theorem exists_end (sink : String) (op : Operation) (w : World) (attempts : List Attempt)
    (waits : List Wait) (havailable : op.Available outcomes w) :
    ∃ own, let whole := w.carryOut (op.carriedOut outcomes waits)
      let solo := Calls.through outcomes ⟨[op], w, attempts⟩ own
      solo.ops = [.settled whole.1.1] ∧ solo.world.linesOf sink = whole.2.linesOf sink := by
  induction op generalizing w attempts waits with
  | settled outcome => exact ⟨[], rfl, rfl⟩
  | act a next ih =>
    obtain ⟨own, hown⟩ := ih _ (w.perform a).2 _ waits havailable
    exact ⟨.turn 0 :: own, hown⟩
  | sleep ms held next ih =>
    obtain ⟨own, hown⟩ := ih w attempts _ havailable
    exact ⟨.turn 0 :: own, hown⟩
  | receive channel held next ih =>
    let w' := w.sent channel (outcomes channel)
    have hsettles : World.Settles outcomes w w' := settles_sent outcomes w channel
    have hsent : w'.channelState channel = .sent (outcomes channel) := by
      rw [World.channelState_sent, if_pos rfl]
      rcases havailable.1 with hopen | hassigned
      · rw [hopen]; rfl
      · rw [hassigned]; rfl
    obtain ⟨own, hops, hlines⟩ := ih _ w' attempts (waits ++ [.outcome channel])
      (havailable.2.settles hsettles)
    have hwhole := World.carryOut_unheard
      ((next (outcomes channel)).carriedOut outcomes (waits ++ [.outcome channel])) hsettles.unheard
    have hturn : Calls.turn ⟨[.receive channel held next], w', attempts⟩ 0 =
        ⟨[next (outcomes channel)], w', attempts⟩ := turn_receive rfl hsent
    have hthrough : Calls.through outcomes ⟨[.receive channel held next], w, attempts⟩
        (.settle channel :: .turn 0 :: own) =
          Calls.through outcomes ⟨[next (outcomes channel)], w', attempts⟩ own :=
      congrArg (Calls.through outcomes · own) hturn
    refine ⟨.settle channel :: .turn 0 :: own, ?_⟩
    rw [hthrough]
    refine ⟨hops.trans ?_, hlines.trans ?_⟩
    · rw [← hwhole.1]
      rfl
    · exact (congrArg (World.linesOf · sink) hwhole.2).symm

/-- Alone, the operation can end with the outcome, and has minted tokens with the serials and
written the lines to the sink by then. -/
def EndsAlone (outcomes : Channel → Outcome) (sink : String) (w : World) (op : Operation)
    (serials : List Nat) (outcome : Outcome) (lines : List String) : Prop :=
  ∃ own, (alone w op).minted outcomes 0 own = serials ∧
    ((alone w op).through outcomes own).Returned 0 outcome ∧
    ((alone w op).through outcomes own).world.linesOf sink = w.linesOf sink ++ lines

/-- Alone, the operation can end as it does in one piece. -/
theorem endsAlone_whole (sink : String) (havailable : first.Available outcomes w) :
    ∃ serials lines, EndsAlone outcomes sink w first serials
      (w.carryOut (first.carriedOut outcomes [])).1.1 lines := by
  obtain ⟨own, hops, hlines⟩ := exists_end sink first w [] [] havailable
  obtain ⟨lines, hwhole⟩ := World.exists_linesOf_carryOut (first.carriedOut outcomes []) w sink
  exact ⟨_, lines, own, rfl, congrArg (·[0]?) hops, hlines.trans hwhole⟩

theorem EndsAlone.eq_endWith {serials : List Nat} {outcome : Outcome} {lines : List String}
    (h : EndsAlone outcomes sink w first serials outcome lines) :
    first.endWith (w.heard outcomes) sink serials w = (outcome, w.linesOf sink ++ lines) := by
  obtain ⟨own, rfl, hreturned, hlines⟩ := h
  have hheads : Heads outcomes (w.heard outcomes) sink
      (first.endWith (w.heard outcomes) sink ((alone w first).minted outcomes 0 own) w)
      (alone w first) first ((alone w first).minted outcomes 0 own ++ []) :=
    ⟨rfl, rfl, by rw [List.append_nil]; rfl⟩
  obtain ⟨op, honly, -, hend⟩ := hheads.through
  obtain rfl : op = .settled outcome := by
    rw [Returned, honly] at hreturned
    exact Option.some.inj hreturned
  rw [← hend, ← hlines]
  rfl

/-- There is no other way, unless its tokens get other serials. -/
theorem EndsAlone.unique {serials : List Nat} {outcome outcome' : Outcome}
    {lines lines' : List String} (h : EndsAlone outcomes sink w first serials outcome lines)
    (h' : EndsAlone outcomes sink w first serials outcome' lines') :
    outcome = outcome' ∧ lines = lines' := by
  have hsame : (outcome, w.linesOf sink ++ lines) = (outcome', w.linesOf sink ++ lines') :=
    h.eq_endWith.symm.trans h'.eq_endWith
  exact ⟨congrArg Prod.fst hsame, List.append_cancel_left (congrArg Prod.snd hsame)⟩

theorem minted_of_mintless {solo : Calls} {op : Operation} (honly : solo.ops = [op])
    (hmintless : op.Mintless) (own : List Occurrence) : solo.minted outcomes 0 own = [] := by
  induction own generalizing solo op with
  | nil => rfl
  | cons event own ih =>
    have hop : solo.ops[0]? = some op := congrArg (·[0]?) honly
    have hnone : solo.serials 0 event = [] := by
      cases event with
      | settle channel | elsewhere count => rfl
      | turn number =>
        cases number with
        | zero => rw [serials_turn hop, hmintless.mints, List.range'_zero]
        | succ number => rfl
    obtain ⟨op', honly', hmintless'⟩ : ∃ op', (solo.occur outcomes event).ops = [op'] ∧
        op'.Mintless := by
      cases event with
      | settle channel | elsewhere count => exact ⟨op, honly, hmintless⟩
      | turn number =>
        cases number with
        | zero =>
          refine ⟨_, ?_, hmintless.turn solo.world⟩
          rw [occur, (turn_of_op hop).1, honly]
          rfl
        | succ number =>
          refine ⟨op, ?_, hmintless⟩
          rw [occur, turn_of_none (by simp [honly]), honly]
    rw [minted, hnone, ih honly' hmintless', List.nil_append]

end Calls

/-! ## Machines -/

namespace Machine

/-- What is done with a machine from outside. -/
inductive Deed where
  /-- The end of a task is waited for, until an instant at most. -/
  | wait (id limit : Nat)
  /-- A deferred operation is settled with the outcome assigned to it. -/
  | settle (channel : Channel)

variable (outcomes : Channel → Outcome)

/-- What becomes of a machine. -/
def does (m : Machine) : Deed → Machine
  | .wait id limit => (m.wait (.task id) limit).2
  | .settle channel => (m.send channel (outcomes channel)).2

/-- What has become of a machine after several deeds, the first one first. -/
def after (m : Machine) (deeds : List Deed) : Machine := deeds.foldl (does outcomes) m

variable {outcomes} {m : Machine} {c : Calls}

theorem world_send_eq (m : Machine) (channel : Channel) (outcome : Outcome) :
    (m.send channel outcome).2.world = m.world.sent channel outcome := by
  obtain ⟨-, ⟨hopen, hworld⟩ | ⟨hopen, hworld⟩⟩ := m.world_send channel outcome
  · rw [hworld, World.sent, hopen]
  · rw [hworld, World.sent]
    split
    · next heq => exact (hopen heq).elim
    · rfl

theorem tasks_send (m : Machine) (channel : Channel) (outcome : Outcome) :
    (m.send channel outcome).2.tasks = m.tasks := by
  unfold send
  split
  · simp only
    split
    · exact tasks_enqueue ..
    · rfl
  · rfl

theorem through_turns (c : Calls) (order : List Nat) :
    c.through outcomes (order.map .turn) = c.after order :=
  List.foldl_map

/-- Whatever is done with a machine happens to the computations that it carries. -/
theorem Carries.after (outcomes : Channel → Outcome) (h : m.Carries c) (deeds : List Deed) :
    ∃ events, (m.after outcomes deeds).Carries (c.through outcomes events) := by
  induction deeds generalizing m c with
  | nil => exact ⟨[], h⟩
  | cons deed deeds ih =>
    obtain ⟨events, hdeed⟩ : ∃ events, (m.does outcomes deed).Carries
        (c.through outcomes events) := by
      cases deed with
      | wait id limit =>
        obtain ⟨order, hwait⟩ := h.wait id limit
        exact ⟨order.map .turn, by rwa [through_turns]⟩
      | settle channel =>
        refine ⟨[.settle channel], ?_, ?_, ?_⟩
        · exact (world_send_eq ..).trans (congrArg (World.sent · channel _) h.world)
        · exact (congrArg Array.size (tasks_send ..)).trans h.size
        · intro number task op htask hop
          exact h.tasks (by rwa [does, tasks_send] at htask) hop
    obtain ⟨later, hlater⟩ := ih hdeed
    exact ⟨events ++ later, by rwa [Calls.through_append]⟩

theorem Carries.returned (h : m.Carries c) {id : Nat} {outcome : Outcome}
    (hended : m.taskOutcome? id = some outcome) : c.Returned id outcome := by
  cases htask : m.tasks[id]? with
  | none => simp [taskOutcome?, htask] at hended
  | some task =>
    have hid : id < c.ops.length := h.size ▸ (Array.getElem?_eq_some_iff.mp htask).1
    obtain ⟨op, hop⟩ : ∃ op, c.ops[id]? = some op := ⟨_, List.getElem?_eq_getElem hid⟩
    have hat := h.tasks htask hop
    cases hat with
    | ended outcome' =>
      obtain rfl : outcome' = outcome := by simpa [taskOutcome?, htask] using hended
      exact hop
    | _ => simp [taskOutcome?, htask] at hended

end Machine

/-! ## One sink for all -/

/-- A process with a stack of its own. -/
structure Member where
  /-- The stack. -/
  stack : Stack
  /-- The process inside. -/
  program : Process

namespace Member

/-- The process with its layers. -/
def process (m : Member) : Process := m.stack.interpret m.program

/-- The bridge of the process. -/
def operation (m : Member) : Operation := m.process.bridge.start

/-- Neither the process nor any of its layers touches anything outside the realm. -/
structure StaysIn (m : Member) (realm : Realm) : Prop where
  program : m.program.StaysIn realm
  layers : ∀ layer ∈ m.stack.layers, layer.StaysIn realm

theorem StaysIn.operation {m : Member} {realm : Realm} (h : m.StaysIn realm) :
    m.operation.StaysIn realm :=
  (Stack.staysIn_interpret h.layers h.program).bridge

end Member

end Effects
