import Mathlib.Data.Set.BooleanAlgebra
import Mathlib.Order.CompletePartialOrder
import Effects.Proofs.Realm

/-!
# Computations that share a sink

Several computations run side by side, and deferred operations are settled in the meantime. If each
of them stays in a realm of its own, all that is left to share is the sinks, to which they can only
add, and the numbers of the tokens, since a serial is never used twice in a program. So what happens
to all of them together happens to each of them as if it were alone: it has its turns, operations
are settled, and now and then tokens are minted elsewhere. `Calls.Mirrors` relates the computation
among the others to the same computation alone, and it is kept by whatever happens.
-/

namespace Effects

/-! ## Shuffles of several lists -/

namespace Shuffle

variable {α : Type} {xs ys zs : List α}

theorem concat_left (h : Shuffle xs ys zs) (more : List α) :
    Shuffle (xs ++ more) ys (zs ++ more) := by
  induction h with
  | nil => simpa using Shuffle.nil.append_left more
  | left a h ih => exact .left a ih
  | right a h ih => exact .right a ih

theorem concat_right (h : Shuffle xs ys zs) (more : List α) :
    Shuffle xs (ys ++ more) (zs ++ more) := by
  induction h with
  | nil =>
    induction more with
    | nil => exact .nil
    | cons a more ih => exact .right a ih
  | left a h ih => exact .left a ih
  | right a h ih => exact .right a ih

end Shuffle

/-- The second list consists of the lists of the first, each of them in its order. -/
inductive Shuffles {α : Type} : List (List α) → List α → Prop where
  | nil : Shuffles [] []
  | cons {xs : List α} {xss : List (List α)} {ys zs : List α} (hrest : Shuffles xss ys)
    (h : Shuffle xs ys zs) : Shuffles (xs :: xss) zs

namespace Shuffles

variable {α : Type} {xss : List (List α)} {zs : List α}

theorem replicate_nil (n : Nat) : Shuffles (List.replicate n ([] : List α)) [] := by
  induction n with
  | zero => exact .nil
  | succ n ih => exact .cons ih .nil

/-- What is added to one of the lists is added to the whole. -/
theorem concat (h : Shuffles xss zs) {i : Nat} {xs : List α} (hxs : xss[i]? = some xs)
    (more : List α) : Shuffles (xss.set i (xs ++ more)) (zs ++ more) := by
  induction h generalizing i with
  | nil => cases hxs
  | cons hrest h ih =>
    cases i with
    | zero =>
      obtain rfl := Option.some.inj hxs
      exact .cons hrest (h.concat_left more)
    | succ i => exact .cons (ih hxs) (h.concat_right more)

end Shuffles

/-! ## What happens -/

/-- What becomes of a channel when an outcome is sent over it. -/
def ChannelState.settled (outcome : Outcome) : ChannelState → ChannelState
  | .open => .sent outcome
  | state => state

theorem ChannelState.settled_of_ne_open {state : ChannelState} (h : state ≠ .open)
    (outcome : Outcome) : state.settled outcome = state := by
  cases state with
  | «open» => exact (h rfl).elim
  | sent | closed => rfl

theorem ChannelState.settled_ne_open (outcome : Outcome) (state : ChannelState) :
    state.settled outcome ≠ .open := by
  cases state <;> nofun

theorem ChannelState.settled_ne_closed {state : ChannelState} (h : state ≠ .closed)
    (outcome : Outcome) : state.settled outcome ≠ .closed := by
  cases state with
  | closed => exact (h rfl).elim
  | «open» | sent => nofun

theorem ChannelState.exists_sent {state : ChannelState} (hopen : state ≠ .open)
    (hclosed : state ≠ .closed) : ∃ outcome, state = .sent outcome := by
  cases state with
  | «open» => exact (hopen rfl).elim
  | closed => exact (hclosed rfl).elim
  | sent outcome => exact ⟨outcome, rfl⟩

namespace World

/-- The world after an outcome has been sent, if anybody could still hear it. -/
def sent (w : World) (channel : Channel) (outcome : Outcome) : World :=
  match w.channelState channel with
  | .open => { w with channels := w.channels.setIfInBounds channel.id (.sent outcome) }
  | _ => w

/-- The world after tokens have been minted, and their scopes have been closed, somewhere else. -/
def numberedOn (w : World) (count : Nat) : World := { w with nextSerial := w.nextSerial + count }

theorem sent_eq (w : World) (channel : Channel) (outcome : Outcome) :
    ∃ channels, w.sent channel outcome = { w with channels := channels } := by
  unfold sent
  split <;> exact ⟨_, rfl⟩

theorem channelState_sent (w : World) (channel : Channel) (outcome : Outcome) (other : Channel) :
    (w.sent channel outcome).channelState other =
      if other = channel then (w.channelState other).settled outcome
      else w.channelState other := by
  unfold sent
  split
  · rename_i hopen
    rw [channelState_set hopen]
    by_cases heq : other = channel
    · simp [heq, hopen, ChannelState.settled]
    · simp [heq]
  · rename_i hopen
    by_cases heq : other = channel
    · rw [if_pos heq, heq, ChannelState.settled_of_ne_open hopen]
    · rw [if_neg heq]

theorem content_sent_congr {w w' : World} {r : Resource} (h : w.content r = w'.content r)
    (channel : Channel) (outcome : Outcome) :
    (w.sent channel outcome).content r = (w'.sent channel outcome).content r := by
  cases r with
  | claim claim =>
    cases claim with
    | receiver other =>
      have hstate : w.channelState other = w'.channelState other := Content.deferred.inj h
      simp only [content, channelState_sent, hstate]
    | scope token =>
      obtain ⟨channels, heq⟩ := w.sent_eq channel outcome
      obtain ⟨channels', heq'⟩ := w'.sent_eq channel outcome
      rw [heq, heq']
      exact h
  | _ =>
    obtain ⟨channels, heq⟩ := w.sent_eq channel outcome
    obtain ⟨channels', heq'⟩ := w'.sent_eq channel outcome
    rw [heq, heq']
    exact h

theorem content_numberedOn (w : World) (count : Nat) (r : Resource) :
    (w.numberedOn count).content r = w.content r := by
  cases r with
  | claim claim => cases claim <;> rfl
  | _ => rfl

end World

/-- Something that happens to computations that run side by side. -/
inductive Occurrence where
  /-- One of them has a turn. -/
  | turn (number : Nat)
  /-- A deferred operation is settled with the outcome assigned to it. -/
  | settle (channel : Channel)
  /-- Some tokens are minted elsewhere. -/
  | elsewhere (count : Nat)

namespace Calls

variable (outcomes : Channel → Outcome)

/-- What becomes of the computations. -/
def occur (c : Calls) : Occurrence → Calls
  | .turn number => c.turn number
  | .settle channel => { c with world := c.world.sent channel (outcomes channel) }
  | .elsewhere count => { c with world := c.world.numberedOn count }

/-- What has become of the computations after several occurrences, the first one first. -/
def through (c : Calls) (events : List Occurrence) : Calls := events.foldl (occur outcomes) c

theorem through_append (c : Calls) (events later : List Occurrence) :
    c.through outcomes (events ++ later) = (c.through outcomes events).through outcomes later :=
  List.foldl_append

/-- A computation that is alone. -/
def alone (w : World) (op : Operation) : Calls := { ops := [op], world := w }

/-- The serials of the tokens that the computation with a number mints in an occurrence. -/
def serials (number : Nat) (c : Calls) : Occurrence → List Nat
  | .turn other =>
    if other = number then
      List.range' c.world.nextSerial ((c.ops[number]?).elim 0 Operation.mints)
    else []
  | _ => []

/-- The serials of the tokens that it mints in several occurrences. -/
def minted (number : Nat) (c : Calls) : List Occurrence → List Nat
  | [] => []
  | event :: events => c.serials number event ++ (c.occur outcomes event).minted number events

theorem minted_append (number : Nat) (c : Calls) (events later : List Occurrence) :
    c.minted outcomes number (events ++ later) = c.minted outcomes number events ++
      (c.through outcomes events).minted outcomes number later := by
  induction events generalizing c with
  | nil => rfl
  | cons event events ih =>
    rw [List.cons_append, minted, minted, ih, List.append_assoc]
    rfl

variable {c : Calls} {number : Nat}

theorem serials_turn {op : Operation} (hop : c.ops[number]? = some op) :
    c.serials number (.turn number) = List.range' c.world.nextSerial op.mints := by
  simp [serials, hop]

theorem turn_of_op {op : Operation} (hop : c.ops[number]? = some op) :
    (c.turn number).ops = c.ops.set number (op.turn c.world).1 ∧
      (c.turn number).world = (op.turn c.world).2 := by
  have hsame : c.ops.set number op = c.ops := by
    obtain ⟨hnumber, rfl⟩ := List.getElem?_eq_some_iff.mp hop
    exact List.set_getElem_self hnumber
  cases op with
  | settled outcome =>
    simp only [turn, hop]
    exact ⟨hsame.symm, rfl⟩
  | act a next =>
    rw [turn_act hop]
    exact ⟨rfl, rfl⟩
  | sleep ms held next =>
    rw [turn_sleep hop]
    exact ⟨rfl, rfl⟩
  | receive channel held next =>
    cases hstate : c.world.channelState channel with
    | sent outcome =>
      rw [turn_receive hop hstate]
      simp only [Operation.turn, hstate, and_self]
    | «open» | closed =>
      simp only [turn, hop, Operation.turn, hstate, and_true]
      exact hsame.symm

theorem turn_of_none (h : c.ops[number]? = none) : c.turn number = c := by
  rw [turn, h]

end Calls

/-- What somebody with a number notices of an occurrence: its own turns, and what is settled. -/
def Occurrence.noticedBy (number : Nat) : Occurrence → Option Occurrence
  | turn other => if other = number then some (.turn 0) else none
  | settle channel => some (.settle channel)
  | elsewhere _ => none

theorem Calls.serials_of_unnoticed {number : Nat} {event : Occurrence}
    (h : event.noticedBy number = none) (c : Calls) : c.serials number event = [] := by
  cases event with
  | turn other =>
    refine if_neg fun heq => ?_
    rw [Occurrence.noticedBy, if_pos heq] at h
    cases h
  | settle channel | elsewhere count => rfl

/-! ## Among the others, and alone -/

namespace Calls

/-- The computation with a number, after some occurrences, is where it would be if it had been alone
from the beginning: with the turns that it has had, with all that has been settled, and with tokens
that have been minted elsewhere. Alone, it has written the lines to the sink, and has minted tokens
with the serials. -/
structure Mirrors (outcomes : Channel → Outcome) (sink : String) (w : World) (first : Operation)
    (events : List Occurrence) (c : Calls) (number : Nat) (own : List Occurrence) (realm : Realm)
    (lines : List String) (serials : List Nat) : Prop where
  noticed : own.filterMap (Occurrence.noticedBy 0) = events.filterMap (Occurrence.noticedBy number)
  op : ∃ op, ((alone w first).through outcomes own).ops = [op] ∧ c.ops[number]? = some op ∧
    op.StaysIn realm
  agree : World.Agree realm ((alone w first).through outcomes own).world c.world
  hosts : ((alone w first).through outcomes own).world.Hosts realm
  numbered : ((alone w first).through outcomes own).world.Numbered
  serial : ((alone w first).through outcomes own).world.nextSerial ≤ c.world.nextSerial
  written : ((alone w first).through outcomes own).world.linesOf sink = w.linesOf sink ++ lines
  minted : (alone w first).minted outcomes 0 own = serials

namespace Mirrors

variable {outcomes : Channel → Outcome} {sink : String} {w : World} {first : Operation}
  {events : List Occurrence} {c : Calls} {number : Nat} {own : List Occurrence} {realm : Realm}
  {lines : List String} {serials : List Nat}

theorem settle (h : Mirrors outcomes sink w first events c number own realm lines serials)
    (channel : Channel) :
    Mirrors outcomes sink w first (events ++ [.settle channel]) (c.occur outcomes (.settle channel))
      number (own ++ [.settle channel]) realm lines serials := by
  obtain ⟨channels, hsent⟩ :=
    ((alone w first).through outcomes own).world.sent_eq channel (outcomes channel)
  obtain ⟨channels', hsent'⟩ := c.world.sent_eq channel (outcomes channel)
  have hsolo : (alone w first).through outcomes (own ++ [.settle channel]) =
      { (alone w first).through outcomes own with
        world := ((alone w first).through outcomes own).world.sent channel (outcomes channel) } :=
    through_append ..
  constructor
  case noticed => simp [Occurrence.noticedBy, h.noticed]
  case minted => simp [minted_append, h.minted, Calls.minted, Calls.serials]
  all_goals rw [hsolo]
  case op => exact h.op
  case agree => exact fun r hr => World.content_sent_congr (h.agree r hr) channel _
  all_goals rw [hsent]
  case hosts => exact ⟨h.hosts.minted, h.hosts.published, h.hosts.offered⟩
  case numbered => exact h.numbered
  case serial =>
    rw [occur, hsent']
    exact h.serial
  case written => exact h.written

theorem unnoticed (h : Mirrors outcomes sink w first events c number own realm lines serials)
    {event : Occurrence} (hevent : event.noticedBy number = none) :
    Mirrors outcomes sink w first (events ++ [event]) c number own realm lines serials :=
  { h with noticed := by simp [hevent, h.noticed] }

theorem elsewhere (h : Mirrors outcomes sink w first events c number own realm lines serials)
    (count : Nat) :
    Mirrors outcomes sink w first (events ++ [.elsewhere count])
      (c.occur outcomes (.elsewhere count)) number own realm lines serials :=
  have hidle : Mirrors outcomes sink w first (events ++ [.elsewhere count]) c number own realm
      lines serials := h.unnoticed rfl
  { hidle with
    agree := fun r hr => (h.agree r hr).trans (c.world.content_numberedOn count r).symm
    serial := h.serial.trans (Nat.le_add_right _ _) }

/-- The turn of another computation, which leaves the realm as it is, goes unnoticed. -/
theorem turn_of_other (h : Mirrors outcomes sink w first events c number own realm lines serials)
    {other : Nat} (hother : other ≠ number) {op : Operation} (hop : c.ops[other]? = some op)
    (hrealm : ∀ r ∈ realm, (op.turn c.world).2.content r = c.world.content r) :
    Mirrors outcomes sink w first (events ++ [.turn other]) (c.turn other) number own realm lines
      serials := by
  obtain ⟨hops, hworld⟩ := turn_of_op hop
  have hidle : Mirrors outcomes sink w first (events ++ [.turn other]) c number own realm lines
      serials := h.unnoticed (if_neg hother)
  refine { hidle with op := ?_, agree := ?_, serial := ?_ }
  · obtain ⟨own, hown, hnumber, hstays⟩ := h.op
    refine ⟨own, hown, ?_, hstays⟩
    rwa [hops, List.getElem?_set_ne hother]
  · rw [hworld]
    exact fun r hr => (h.agree r hr).trans (hrealm r hr).symm
  · rw [hworld, Operation.nextSerial_turn]
    exact h.serial.trans (Nat.le_add_right _ _)

/-- All tokens that have been minted among the others can be minted while it is alone. -/
theorem catchUp (h : Mirrors outcomes sink w first events c number own realm lines serials) :
    ∃ own', Mirrors outcomes sink w first events c number own' realm lines serials ∧
      ((alone w first).through outcomes own').world.nextSerial = c.world.nextSerial := by
  let solo := (alone w first).through outcomes own
  let count := c.world.nextSerial - solo.world.nextSerial
  have hsolo : (alone w first).through outcomes (own ++ [.elsewhere count]) =
      { solo with world := solo.world.numberedOn count } := through_append ..
  have hserial : (solo.world.numberedOn count).nextSerial = c.world.nextSerial :=
    Nat.add_sub_of_le h.serial
  refine ⟨own ++ [.elsewhere count], ?_, by rw [hsolo]; exact hserial⟩
  constructor
  case noticed => simpa [List.filterMap_cons, Occurrence.noticedBy] using h.noticed
  case minted => simp [minted_append, h.minted, Calls.minted, Calls.serials]
  all_goals rw [hsolo]
  case op => exact h.op
  case agree => exact fun r hr => (solo.world.content_numberedOn count r).trans (h.agree r hr)
  case hosts =>
    exact ⟨fun token htoken => Nat.lt_add_right _ (h.hosts.minted token htoken),
      h.hosts.published, h.hosts.offered⟩
  case numbered => exact fun token htoken => Nat.lt_add_right _ (h.numbered token htoken)
  case serial => exact hserial.le
  case written => exact h.written

/-- In its own turn the computation does what it does alone. -/
theorem turn (h : Mirrors outcomes sink w first events c number own realm lines serials)
    (hserial : ((alone w first).through outcomes own).world.nextSerial = c.world.nextSerial)
    (hnumbered : c.world.Numbered) {op : Operation} (hop : c.ops[number]? = some op) :
    Mirrors outcomes sink w first (events ++ [.turn number]) (c.turn number) number
      (own ++ [.turn 0]) (realm ∪ op.gains c.world) (lines ++ op.linesTo sink)
      (serials ++ List.range' c.world.nextSerial op.mints) := by
  obtain ⟨op', hown, hnumber, hstays⟩ := h.op
  obtain rfl : op = op' := Option.some.inj (hop.symm.trans hnumber)
  have hsolo : (alone w first).through outcomes (own ++ [.turn 0]) =
      ((alone w first).through outcomes own).turn 0 := through_append ..
  obtain ⟨hops, hworld⟩ := turn_of_op hop
  have hfirst : ((alone w first).through outcomes own).ops[0]? = some op := congrArg (·[0]?) hown
  obtain ⟨hops', hworld'⟩ := turn_of_op hfirst
  rw [← hstays.gains_eq h.agree hserial]
  constructor
  case noticed => simp [Occurrence.noticedBy, h.noticed]
  case minted => simp [minted_append, h.minted, Calls.minted, serials_turn hfirst, hserial]
  all_goals rw [hsolo]
  case op =>
    refine ⟨_, by rw [hops', hown]; rfl, ?_, hstays.turn _⟩
    rw [hops, hstays.turn_eq h.agree hserial]
    exact getElem?_set_of_some hop _
  case agree =>
    rw [hworld, hworld']
    exact hstays.agree_turn h.agree hserial h.hosts h.numbered hnumbered
  case hosts => rw [hworld']; exact hstays.hosts_turn h.hosts
  case numbered => rw [hworld']; exact Operation.numbered_turn h.numbered op
  case serial =>
    rw [hworld, hworld', Operation.nextSerial_turn, Operation.nextSerial_turn, hserial]
  case written => rw [hworld', Operation.linesOf_turn, h.written, List.append_assoc]

end Mirrors

/-- The computations are together, and each of them is where it would be if it were alone. Each has
a realm of its own, and together they have written what they have written alone. -/
structure Together (outcomes : Channel → Outcome) (sink : String) (w : World)
    (ops : List Operation) (events : List Occurrence) (c : Calls) (realms : Nat → Realm)
    (traces : List (List String)) : Prop where
  reached : c = Calls.through outcomes { ops, world := w } events
  length : c.ops.length = ops.length
  numbered : c.world.Numbered
  disjoint : ∀ i j, i < ops.length → j < ops.length → i ≠ j → Disjoint (realms i) (realms j)
  size : traces.length = ops.length
  mirrors : ∀ {i : Nat} {first : Operation}, ops[i]? = some first → ∃ own lines,
    traces[i]? = some lines ∧ Mirrors outcomes sink w first events c i own (realms i) lines
      (Calls.minted outcomes i { ops, world := w } events)
  lines : ∃ zs, Shuffles traces zs ∧ c.world.linesOf sink = w.linesOf sink ++ zs

namespace Together

variable {outcomes : Channel → Outcome} {sink : String} {w : World} {ops : List Operation}
  {events : List Occurrence} {c : Calls} {realms : Nat → Realm} {traces : List (List String)}

theorem reached_occur (h : Together outcomes sink w ops events c realms traces)
    (event : Occurrence) :
    c.occur outcomes event = Calls.through outcomes { ops, world := w } (events ++ [event]) := by
  rw [through_append, ← h.reached]
  rfl

theorem minted_concat (h : Together outcomes sink w ops events c realms traces) (i : Nat)
    (event : Occurrence) :
    Calls.minted outcomes i { ops, world := w } (events ++ [event]) =
      Calls.minted outcomes i { ops, world := w } events ++ c.serials i event := by
  rw [minted_append, ← h.reached, Calls.minted, Calls.minted, List.append_nil]

theorem minted_of_unnoticed (h : Together outcomes sink w ops events c realms traces) {i : Nat}
    {event : Occurrence} (hevent : event.noticedBy i = none) :
    Calls.minted outcomes i { ops, world := w } (events ++ [event]) =
      Calls.minted outcomes i { ops, world := w } events := by
  rw [h.minted_concat, serials_of_unnoticed hevent, List.append_nil]

/-- What a computation gets to know in its turn does not belong to any other one. -/
theorem disjoint_gains (h : Together outcomes sink w ops events c realms traces) {number : Nat}
    {op : Operation} (hop : c.ops[number]? = some op) {other : Nat} (hlt : other < ops.length)
    (hother : number ≠ other) : Disjoint (realms number ∪ op.gains c.world) (realms other) := by
  have hnumber : number < ops.length := h.length ▸ (List.getElem?_eq_some_iff.mp hop).1
  rw [Set.disjoint_left]
  rintro r (hr | hr) hin
  · exact Set.disjoint_left.mp (h.disjoint number other hnumber hlt hother) hr hin
  · obtain ⟨own, lines, -, hmirrors⟩ := h.mirrors (List.getElem?_eq_getElem hnumber)
    obtain ⟨own, hmirrors, hserial⟩ := hmirrors.catchUp
    obtain ⟨op', -, hop', hstays⟩ := hmirrors.op
    obtain rfl : op = op' := Option.some.inj (hop.symm.trans hop')
    rw [← hstays.gains_eq hmirrors.agree hserial] at hr
    rcases hstays.of_gains hmirrors.hosts hr with hold | ⟨token, rfl, hfresh⟩
    · exact Set.disjoint_left.mp (h.disjoint number other hnumber hlt hother) hold hin
    · obtain ⟨own', lines', -, hmirrors'⟩ := h.mirrors (List.getElem?_eq_getElem hlt)
      have hminted := hmirrors'.hosts.minted token hin
      have hle := hmirrors'.serial
      omega

theorem turn (h : Together outcomes sink w ops events c realms traces) (number : Nat) :
    ∃ realms' traces',
      Together outcomes sink w ops (events ++ [.turn number]) (c.turn number) realms' traces' := by
  cases hop : c.ops[number]? with
  | none =>
    have hlength : c.ops.length ≤ number := List.getElem?_eq_none_iff.mp hop
    have hreached := h.reached_occur (.turn number)
    rw [occur, turn_of_none hop] at hreached
    rw [turn_of_none hop]
    refine ⟨realms, traces, { h with reached := hreached, mirrors := fun {i first} hfirst => ?_ }⟩
    obtain ⟨own, lines, hlines, hmirrors⟩ := h.mirrors hfirst
    have hi : i < ops.length := (List.getElem?_eq_some_iff.mp hfirst).1
    have hidle : Occurrence.noticedBy i (.turn number) = none :=
      if_neg (by have := h.length; omega)
    rw [h.minted_of_unnoticed hidle]
    exact ⟨own, lines, hlines, hmirrors.unnoticed hidle⟩
  | some op =>
    obtain ⟨hops, hworld⟩ := turn_of_op hop
    have hnumber : number < ops.length := h.length ▸ (List.getElem?_eq_some_iff.mp hop).1
    obtain ⟨own, lines, hlines, hmirrors⟩ := h.mirrors (List.getElem?_eq_getElem hnumber)
    obtain ⟨own, hmirrors, hserial⟩ := hmirrors.catchUp
    obtain ⟨op', -, hop', hstays⟩ := hmirrors.op
    obtain rfl : op = op' := Option.some.inj (hop.symm.trans hop')
    have hdisjoint (i : Nat) (hi : i < ops.length) (hne : number ≠ i) :
        Disjoint (realms number ∪ op.gains c.world) (realms i) := h.disjoint_gains hop hi hne
    obtain ⟨zs, hshuffles, hzs⟩ := h.lines
    refine ⟨Function.update realms number (realms number ∪ op.gains c.world),
      traces.set number (lines ++ op.linesTo sink), h.reached_occur (.turn number),
      ?_, ?_, ?_, ?_, ?_, ?_⟩
    · rw [hops, List.length_set, h.length]
    · rw [hworld]
      exact Operation.numbered_turn h.numbered op
    · intro i j hi hj hne
      by_cases hni : number = i
      · subst hni
        rw [Function.update_self, Function.update_of_ne hne.symm]
        exact hdisjoint j hj hne
      · rw [Function.update_of_ne (Ne.symm hni)]
        by_cases hnj : number = j
        · subst hnj
          rw [Function.update_self]
          exact (hdisjoint i hi hni).symm
        · rw [Function.update_of_ne (Ne.symm hnj)]
          exact h.disjoint i j hi hj hne
    · rw [List.length_set, h.size]
    · intro i first hfirst
      by_cases hni : number = i
      · subst hni
        obtain rfl : ops[number] = first :=
          Option.some.inj ((List.getElem?_eq_getElem hnumber).symm.trans hfirst)
        rw [Function.update_self, List.getElem?_set_self (List.getElem?_eq_some_iff.mp hlines).1,
          h.minted_concat, serials_turn hop]
        exact ⟨_, _, rfl, hmirrors.turn hserial h.numbered hop⟩
      · have hidle : Occurrence.noticedBy i (.turn number) = none := if_neg hni
        rw [Function.update_of_ne (Ne.symm hni), List.getElem?_set_ne hni,
          h.minted_of_unnoticed hidle]
        obtain ⟨own', lines', hlines', hmirrors'⟩ := h.mirrors hfirst
        refine ⟨own', lines', hlines', hmirrors'.turn_of_other hni hop fun r hr => ?_⟩
        have hi : i < ops.length := (List.getElem?_eq_some_iff.mp hfirst).1
        exact hstays.content_turn fun hin => Set.disjoint_left.mp (hdisjoint i hi hni) hin hr
    · refine ⟨zs ++ op.linesTo sink, hshuffles.concat hlines _, ?_⟩
      rw [hworld, Operation.linesOf_turn, hzs, List.append_assoc]

theorem occur (h : Together outcomes sink w ops events c realms traces) (event : Occurrence) :
    ∃ realms' traces', Together outcomes sink w ops (events ++ [event])
      (c.occur outcomes event) realms' traces' := by
  cases event with
  | turn number => exact h.turn number
  | settle channel =>
    obtain ⟨channels, hsent⟩ := c.world.sent_eq channel (outcomes channel)
    refine ⟨realms, traces, h.reached_occur _, h.length, ?_, h.disjoint, h.size,
      fun {i first} hfirst => ?_, ?_⟩
    · rw [Calls.occur, hsent]
      exact h.numbered
    · obtain ⟨own, lines, hlines, hmirrors⟩ := h.mirrors hfirst
      have hnone : c.serials i (.settle channel) = [] := rfl
      rw [h.minted_concat, hnone, List.append_nil]
      exact ⟨_, lines, hlines, hmirrors.settle channel⟩
    · rw [Calls.occur, hsent]
      exact h.lines
  | elsewhere count =>
    have hnumbered : (c.world.numberedOn count).Numbered := fun token htoken =>
      Nat.lt_add_right _ (h.numbered token htoken)
    refine ⟨realms, traces, h.reached_occur _, h.length, hnumbered, h.disjoint, h.size,
      fun hfirst => ?_, h.lines⟩
    obtain ⟨own, lines, hlines, hmirrors⟩ := h.mirrors hfirst
    rw [h.minted_of_unnoticed rfl]
    exact ⟨own, lines, hlines, hmirrors.elsewhere count⟩

theorem through (h : Together outcomes sink w ops events c realms traces)
    (later : List Occurrence) :
    ∃ realms' traces', Together outcomes sink w ops (events ++ later)
      (c.through outcomes later) realms' traces' := by
  induction later generalizing events c realms traces with
  | nil => exact ⟨realms, traces, by simpa [Calls.through] using h⟩
  | cons event later ih =>
    obtain ⟨realms', traces', hnext⟩ := h.occur event
    simpa [Calls.through] using ih hnext

end Together

/-- Computations that stay in realms of their own can be put together. -/
theorem together_start {outcomes : Channel → Outcome} (sink : String) {w : World}
    {ops : List Operation} {realms : Nat → Realm}
    (hstays : ∀ (i : Nat) (op : Operation), ops[i]? = some op → op.StaysIn (realms i))
    (hdisjoint : ∀ i j, i < ops.length → j < ops.length → i ≠ j → Disjoint (realms i) (realms j))
    (hhosts : ∀ i < ops.length, w.Hosts (realms i)) (hnumbered : w.Numbered) :
    Together outcomes sink w ops [] { ops, world := w } realms (List.replicate ops.length []) where
  reached := rfl
  length := rfl
  numbered := hnumbered
  disjoint := hdisjoint
  size := List.length_replicate
  mirrors {i first} hfirst := by
    have hi : i < ops.length := (List.getElem?_eq_some_iff.mp hfirst).1
    refine ⟨[], [], by simp [hi], rfl, ⟨first, rfl, hfirst, hstays i first hfirst⟩, fun _ _ => rfl,
      hhosts i hi, hnumbered, Nat.le_refl _, (List.append_nil _).symm, rfl⟩
  lines := ⟨[], .replicate_nil _, (List.append_nil _).symm⟩

end Calls

/-! ## Fair schedules -/

/-- The operation can go on. -/
def Operation.CanGo (w : World) : Operation → Prop
  | .settled _ => False
  | .receive channel _ _ => ∃ outcome, w.channelState channel = .sent outcome
  | _ => True

theorem Operation.turn_of_not_canGo {w : World} {op : Operation} (h : ¬ op.CanGo w) :
    op.turn w = (op, w) := by
  cases op with
  | settled outcome => rfl
  | act | sleep => exact (h trivial).elim
  | receive channel held next =>
    rw [turn]
    split
    · next outcome hsent => exact (h ⟨outcome, hsent⟩).elim
    · rfl

namespace Calls

variable (outcomes : Channel → Outcome) (c : Calls) (schedule : Nat → Occurrence)

/-- The computations after the first occurrences of a schedule. -/
def upTo (t : Nat) : Calls := c.through outcomes ((List.range t).map schedule)

theorem upTo_succ (t : Nat) :
    c.upTo outcomes schedule (t + 1) =
      (c.upTo outcomes schedule t).occur outcomes (schedule t) := by
  rw [upTo, List.range_succ, List.map_append, through_append]
  rfl

variable {outcomes c schedule}

/-- A computation waits until it can go on and has its turn. -/
theorem waits {number t : Nat} {op : Operation}
    (hop : (c.upTo outcomes schedule t).ops[number]? = some op) (later : Nat) :
    (∃ s, t ≤ s ∧ s < t + later ∧ (c.upTo outcomes schedule s).ops[number]? = some op ∧
        schedule s = .turn number ∧ op.CanGo (c.upTo outcomes schedule s).world) ∨
      (c.upTo outcomes schedule (t + later)).ops[number]? = some op := by
  induction later with
  | zero => exact .inr hop
  | succ later ih =>
    rcases ih with ⟨s, hle, hlt, hrest⟩ | hstill
    · exact .inl ⟨s, hle, by omega, hrest⟩
    rw [← Nat.add_assoc, upTo_succ]
    cases hevent : schedule (t + later) with
    | settle channel | elsewhere count => exact .inr hstill
    | turn other =>
      by_cases hother : other = number
      · subst hother
        by_cases hgo : op.CanGo (c.upTo outcomes schedule (t + later)).world
        · exact .inl ⟨t + later, by omega, by omega, hstill, hevent, hgo⟩
        · refine .inr ?_
          show ((c.upTo outcomes schedule (t + later)).turn other).ops[other]? = some op
          rw [(turn_of_op hstill).1, Operation.turn_of_not_canGo hgo]
          exact getElem?_set_of_some hstill op
      · refine .inr ?_
        show ((c.upTo outcomes schedule (t + later)).turn other).ops[number]? = some op
        cases hturn : (c.upTo outcomes schedule (t + later)).ops[other]? with
        | none => rwa [turn_of_none hturn]
        | some op' => rwa [(turn_of_op hturn).1, List.getElem?_set_ne hother]

theorem channelState_occur_of_ne_open {channel : Channel}
    (h : c.world.channelState channel ≠ .open) (event : Occurrence) :
    (c.occur outcomes event).world.channelState channel = c.world.channelState channel := by
  cases event with
  | turn number =>
    show (c.turn number).world.channelState channel = _
    cases hop : c.ops[number]? with
    | none => rw [turn_of_none hop]
    | some op =>
      rw [(turn_of_op hop).2]
      cases op with
      | act a next => exact World.channelState_perform_of_ne_open h a
      | receive other held next => rw [Operation.turn_receive_eq]
      | settled | sleep => rfl
  | settle other =>
    show (c.world.sent other _).channelState channel = _
    rw [World.channelState_sent, ChannelState.settled_of_ne_open h, ite_self]
  | elsewhere count => rfl

theorem channelState_upTo_of_ne_open {channel : Channel} {t : Nat}
    (h : (c.upTo outcomes schedule t).world.channelState channel ≠ .open) (later : Nat) :
    (c.upTo outcomes schedule (t + later)).world.channelState channel =
      (c.upTo outcomes schedule t).world.channelState channel := by
  induction later with
  | zero => rfl
  | succ later ih =>
    rw [← Nat.add_assoc, upTo_succ, channelState_occur_of_ne_open (by rwa [ih]), ih]

/-- The number has its turn again and again, and what the computation with this number waits for
comes at some time. -/
structure Fair (outcomes : Channel → Outcome) (c : Calls) (schedule : Nat → Occurrence)
    (number : Nat) : Prop where
  turns : ∀ t, ∃ s, t ≤ s ∧ schedule s = .turn number
  arrives : ∀ t channel held next,
    (c.upTo outcomes schedule t).ops[number]? = some (.receive channel held next) →
    ∃ s outcome, (c.upTo outcomes schedule s).world.channelState channel = .sent outcome

/-- A computation that is not at its end has a turn in which it can go on. -/
theorem Fair.exists_turn {number t : Nat} (h : Fair outcomes c schedule number) {op : Operation}
    (hop : (c.upTo outcomes schedule t).ops[number]? = some op)
    (hrests : ∀ outcome, op ≠ .settled outcome) :
    ∃ s, (c.upTo outcomes schedule s).ops[number]? = some op ∧ schedule s = .turn number ∧
      op.CanGo (c.upTo outcomes schedule s).world := by
  -- from some instant on it can go on, if it has not done so before
  obtain ⟨due, hdue⟩ : ∃ due, ∀ s, due ≤ s → op.CanGo (c.upTo outcomes schedule s).world := by
    cases op with
    | settled outcome => exact (hrests outcome rfl).elim
    | act | sleep => exact ⟨0, fun _ _ => trivial⟩
    | receive channel held next =>
      obtain ⟨due, outcome, hsent⟩ := h.arrives t channel held next hop
      refine ⟨due, fun s hs => ⟨outcome, ?_⟩⟩
      obtain ⟨later, rfl⟩ := Nat.exists_eq_add_of_le hs
      rw [channelState_upTo_of_ne_open (by rw [hsent]; nofun), hsent]
  obtain ⟨s, hs, hturn⟩ := h.turns (max t due)
  obtain ⟨later, rfl⟩ := Nat.exists_eq_add_of_le (le_of_max_le_left hs)
  rcases waits hop later with ⟨s, -, -, hstill, hturn, hgo⟩ | hstill
  · exact ⟨s, hstill, hturn, hgo⟩
  · exact ⟨t + later, hstill, hturn, hdue _ (le_of_max_le_right hs)⟩

/-- In a fair schedule the computation comes to its end. -/
theorem Fair.returned {number t : Nat} (h : Fair outcomes c schedule number) {op : Operation}
    (hop : (c.upTo outcomes schedule t).ops[number]? = some op) :
    ∃ s outcome, (c.upTo outcomes schedule s).Returned number outcome := by
  have hgoes {op : Operation} {t : Nat} (hop : (c.upTo outcomes schedule t).ops[number]? = some op)
      (hrests : ∀ outcome, op ≠ .settled outcome) :
      ∃ s, op.CanGo (c.upTo outcomes schedule s).world ∧
        (c.upTo outcomes schedule (s + 1)).ops[number]? =
          some (op.turn (c.upTo outcomes schedule s).world).1 := by
    obtain ⟨s, hstill, hturn, hgo⟩ := h.exists_turn hop hrests
    refine ⟨s, hgo, ?_⟩
    rw [upTo_succ, hturn]
    show ((c.upTo outcomes schedule s).turn number).ops[number]? = _
    rw [(turn_of_op hstill).1]
    exact getElem?_set_of_some hstill _
  -- each turn leaves a smaller operation
  induction op generalizing t with
  | settled outcome => exact ⟨t, outcome, hop⟩
  | act a next ih =>
    obtain ⟨s, -, hnext⟩ := hgoes hop nofun
    exact ih _ hnext
  | sleep ms held next ih =>
    obtain ⟨s, -, hnext⟩ := hgoes hop nofun
    exact ih hnext
  | receive channel held next ih =>
    obtain ⟨s, ⟨outcome, hsent⟩, hnext⟩ := hgoes hop nofun
    simp only [Operation.turn, hsent] at hnext
    exact ih outcome hnext

/-- Alone, the computation is never left waiting for an operation that has been given up, and the
schedule settles each one that it waits for. -/
def Served (outcomes : Channel → Outcome) (w : World) (first : Operation)
    (schedule : Nat → Occurrence) : Prop :=
  ∀ own channel held next,
    ((alone w first).through outcomes own).ops = [.receive channel held next] →
    ((alone w first).through outcomes own).world.channelState channel ≠ .closed ∧
      ∃ t, schedule t = .settle channel

/-- What comes to the computation when it is alone comes to it among the others. -/
theorem Served.fair {sink : String} {w : World} {ops : List Operation} {first : Operation}
    {number : Nat} (hserved : Served outcomes w first schedule)
    (hfirst : ops[number]? = some first)
    (htogether : ∀ t, ∃ events realms traces,
      Together outcomes sink w ops events (c.upTo outcomes schedule t) realms traces)
    (hturns : ∀ t, ∃ s, t ≤ s ∧ schedule s = .turn number) :
    Fair outcomes c schedule number := by
  refine ⟨hturns, fun t channel held next hop => ?_⟩
  have hwaiting {s : Nat} (hop : (c.upTo outcomes schedule s).ops[number]? =
      some (.receive channel held next)) :
      (c.upTo outcomes schedule s).world.channelState channel ≠ .closed ∧
        ∃ d, schedule d = .settle channel := by
    obtain ⟨events, realms, traces, h⟩ := htogether s
    obtain ⟨own, lines, -, hmirrors⟩ := h.mirrors hfirst
    obtain ⟨op, hown, hop', hstays⟩ := hmirrors.op
    obtain rfl : op = .receive channel held next := Option.some.inj (hop'.symm.trans hop)
    obtain ⟨hopen, hsettled⟩ := hserved own channel held next hown
    rw [Content.deferred.inj (hmirrors.agree _ hstays.1)] at hopen
    exact ⟨hopen, hsettled⟩
  obtain ⟨-, d, hd⟩ := hwaiting hop
  have hsent : (c.upTo outcomes schedule (d + 1)).world.channelState channel =
      ((c.upTo outcomes schedule d).world.channelState channel).settled (outcomes channel) := by
    rw [upTo_succ, hd]
    exact (World.channelState_sent ..).trans (if_pos rfl)
  have hopen : (c.upTo outcomes schedule (d + 1)).world.channelState channel ≠ .open :=
    hsent ▸ ChannelState.settled_ne_open _ _
  rcases Nat.lt_or_ge d t with hlt | hle
  · obtain ⟨later, rfl⟩ := Nat.exists_eq_add_of_lt hlt
    rw [Nat.add_right_comm] at hop
    have hstate := channelState_upTo_of_ne_open hopen later
    exact ⟨_, ChannelState.exists_sent (hstate ▸ hopen) (hwaiting hop).1⟩
  · obtain ⟨later, rfl⟩ := Nat.exists_eq_add_of_le hle
    rcases waits hop later with ⟨s, -, -, -, -, outcome, hgo⟩ | hstill
    · exact ⟨s, outcome, hgo⟩
    · refine ⟨_, ChannelState.exists_sent hopen ?_⟩
      rw [hsent]
      exact ChannelState.settled_ne_closed (hwaiting hstill).1 _

end Calls

end Effects
