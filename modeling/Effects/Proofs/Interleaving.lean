import Mathlib.Data.List.Nodup
import Effects.Proofs.Attempts
import Effects.Proofs.Polling

/-!
# Concurrent calls of a store

Several calls of one store are under way at the same time, with latencies and retries of their own.
They take turns in an arbitrary order, and all that they share is the world, and in it the store. A
machine that has the calls as its tasks chooses one such order (`Machine.Carries.joining`).

A turn keeps two things: the attempts made so far have led to the present store, and each call has
come as far as its own attempts say. The main result is read off these two, after any number of
turns: the calls that return a value have taken effect once, one after the other, and the calls that
fail have had no effect.
-/

namespace Effects

/-! ## All calls together -/

/-- A call of a store. -/
structure StoreCall where
  /-- How the store is reached. -/
  service : Service
  /-- What is asked for. -/
  request : StoreRequest

/-- The attempts that an act consists of: one or none. -/
def Attempt.ofAct (call : Nat) (before after : World) : (a : Act) → a.Answer → List Attempt
  | .attempt store request, outcome =>
    [{ call, request, outcome
       before := (before.stores.lookup store).getD {}
       after := (after.stores.lookup store).getD {} }]
  | _, _ => []

theorem World.lookup_rebind {bindings : List (String × Store)} {name : String} {old : Store}
    (h : bindings.lookup name = some old) (new : Store) :
    (rebind bindings name new).lookup name = some new := by
  induction bindings with
  | nil => cases h
  | cons binding bindings ih =>
    obtain ⟨key, value⟩ := binding
    by_cases hkey : key = name
    · simp [rebind, hkey]
    · have hne : (name == key) = false := by simpa using Ne.symm hkey
      rw [List.lookup_cons, hne] at h
      have hlater := ih h
      simpa [rebind, hkey, List.lookup_cons, hne] using hlater

theorem World.perform_attempt {w : World} {name : String} {store : Store}
    (h : w.stores.lookup name = some store) (r : StoreRequest) :
    w.perform (.attempt name r) =
      ((store.attempt r).1, { w with stores := rebind w.stores name (store.attempt r).2 }) := by
  simp only [perform, h]
  rfl

theorem Attempt.ofAct_attempt {w : World} {name : String} {store : Store}
    (h : w.stores.lookup name = some store) (call : Nat) (r : StoreRequest) :
    ofAct call w (w.perform (.attempt name r)).2 (.attempt name r) (w.perform (.attempt name r)).1 =
      [⟨call, r, (store.attempt r).1, store, (store.attempt r).2⟩] := by
  rw [World.perform_attempt h]
  simp only [ofAct, h, World.lookup_rebind h, Option.getD_some]

/-- Concurrent calls that are under way. -/
structure Calls where
  /-- What remains of each call. -/
  ops : List Operation
  /-- What the calls share. -/
  world : World
  /-- The attempts that have been made, the first one first. -/
  attempts : List Attempt := []

namespace Calls

/-- The calls before the first turn. -/
def start (w : World) (calls : List StoreCall) : Calls where
  ops := calls.map fun call => (call.service.call call.request).start
  world := w

/-- Gives a call its turn: it performs its next act, or goes on after a pause, or with an outcome
that has been sent. -/
def turn (c : Calls) (number : Nat) : Calls :=
  match c.ops[number]? with
  | some (.act a next) =>
    let (answer, world) := c.world.perform a
    { ops := c.ops.set number (next answer)
      world
      attempts := c.attempts ++ Attempt.ofAct number c.world world a answer }
  | some (.sleep _ _ next) => { c with ops := c.ops.set number next }
  | some (.receive channel _ next) =>
    match c.world.channelState channel with
    | .sent outcome => { c with ops := c.ops.set number (next outcome) }
    | _ => c
  | _ => c

/-- Gives calls their turns, in order. -/
def after (c : Calls) (order : List Nat) : Calls := order.foldl turn c

/-- The attempts of one call. -/
def attemptsOf (c : Calls) (number : Nat) : List Attempt :=
  c.attempts.filter fun a => a.call = number

/-- The attempts that were refused. -/
def refused (c : Calls) : List Attempt := c.attempts.filter Attempt.isRefused

/-- The attempts that have returned a value. -/
def effective (c : Calls) : List Attempt := c.attempts.filter Attempt.isEffective

/-- A call has ended. -/
def Returned (c : Calls) (number : Nat) (outcome : Outcome) : Prop :=
  c.ops[number]? = some (.settled outcome)

section

variable {c : Calls} {number : Nat} {op : Operation}

theorem getElem?_set_of_some (hop : c.ops[number]? = some op) (op' : Operation) :
    (c.ops.set number op')[number]? = some op' :=
  List.getElem?_set_self (List.getElem?_eq_some_iff.mp hop).1

theorem turn_act {a : Act} {next : a.Answer → Operation}
    (hop : c.ops[number]? = some (.act a next)) :
    c.turn number =
      ⟨c.ops.set number (next (c.world.perform a).1), (c.world.perform a).2,
        c.attempts ++
          Attempt.ofAct number c.world (c.world.perform a).2 a (c.world.perform a).1⟩ := by
  rw [turn, hop]

theorem turn_sleep {ms : Nat} {held : List Claim} {next : Operation}
    (hop : c.ops[number]? = some (.sleep ms held next)) :
    c.turn number = ⟨c.ops.set number next, c.world, c.attempts⟩ := by
  rw [turn, hop]

theorem turn_receive {channel : Channel} {held : List Claim} {next : Outcome → Operation}
    {outcome : Outcome} (hop : c.ops[number]? = some (.receive channel held next))
    (hsent : c.world.channelState channel = .sent outcome) :
    c.turn number = ⟨c.ops.set number (next outcome), c.world, c.attempts⟩ := by
  simp only [turn, hop, hsent]

end

/-- The attempts that have been made fit the state of the store and how far each call has come. -/
structure Consistent (calls : List StoreCall) (name : String) (first : Store) (c : Calls) :
    Prop where
  /-- No call gets lost. -/
  length : c.ops.length = calls.length
  /-- The attempts have led to the present store. -/
  kept : ∃ last, c.world.stores.lookup name = some last ∧ Ledger first c.attempts last
  /-- Each attempt has been made by a call, at its own request. -/
  asked : ∀ a ∈ c.attempts, ∃ call, calls[a.call]? = some call ∧ a.request = call.request
  /-- Each call has come as far as its attempts say. -/
  standing : ∀ {number : Nat} {call : StoreCall} {op : Operation},
    calls[number]? = some call → c.ops[number]? = some op →
      Standing name call.request (c.attemptsOf number) op

variable {calls : List StoreCall} {name : String} {first : Store} {c : Calls}

theorem consistent_start {w : World} (hstore : w.stores.lookup name = some first)
    (hcalls : ∀ call ∈ calls, call.service.store = name) :
    Consistent calls name first (start w calls) where
  length := by simp [start]
  kept := ⟨first, hstore, .nil⟩
  asked := by simp [start]
  standing {number call op} hcall hop := by
    have hstart : op = (call.service.call call.request).start := by
      simpa [start, hcall] using hop.symm
    have hname := hcalls call (List.mem_of_getElem? hcall)
    rw [hstart, ← hname]
    exact .underWay (call.service.attempting_call call.request) (by simp [attemptsOf, start])

namespace Consistent

theorem standing_of_op (h : Consistent calls name first c) {number : Nat} {op : Operation}
    (hop : c.ops[number]? = some op) :
    ∃ call, calls[number]? = some call ∧ Standing name call.request (c.attemptsOf number) op := by
  have hnumber : number < calls.length := h.length ▸ (List.getElem?_eq_some_iff.mp hop).1
  have hcall : calls[number]? = some calls[number] := List.getElem?_eq_getElem hnumber
  exact ⟨calls[number], hcall, h.standing hcall hop⟩

theorem exists_op (h : Consistent calls name first c) {number : Nat} {call : StoreCall}
    (hcall : calls[number]? = some call) : ∃ op, c.ops[number]? = some op := by
  have hnumber : number < c.ops.length := h.length.symm ▸ (List.getElem?_eq_some_iff.mp hcall).1
  exact ⟨c.ops[number], List.getElem?_eq_getElem hnumber⟩

theorem request_eq (h : Consistent calls name first c) {number : Nat} {call : StoreCall}
    (hcall : calls[number]? = some call) :
    ∀ a ∈ c.attemptsOf number, a.request = call.request := by
  intro a ha
  obtain ⟨hmem, hnumber⟩ := List.mem_filter.mp ha
  obtain ⟨call', hcall', hrequest⟩ := h.asked a hmem
  rw [of_decide_eq_true hnumber, hcall] at hcall'
  rw [hrequest, Option.some.inj hcall']

/-- One call changes, and what it does is recorded under its number. -/
theorem update (h : Consistent calls name first c) {number : Nat} {call : StoreCall}
    (hcall : calls[number]? = some call) {op : Operation} {world : World} (made : List Attempt)
    (hmade : ∀ a ∈ made, a.call = number ∧ a.request = call.request)
    (hkept : ∃ last, world.stores.lookup name = some last ∧
      Ledger first (c.attempts ++ made) last)
    (hop : Standing name call.request (c.attemptsOf number ++ made) op) :
    Consistent calls name first
      { ops := c.ops.set number op, world, attempts := c.attempts ++ made } where
  length := by rw [List.length_set, h.length]
  kept := hkept
  asked a ha := by
    rcases List.mem_append.mp ha with hearlier | hnew
    · exact h.asked a hearlier
    · obtain ⟨hnumber, hrequest⟩ := hmade a hnew
      exact ⟨call, hnumber ▸ hcall, hrequest⟩
  standing {other call' op'} hcall' hop' := by
    by_cases hother : other = number
    · subst hother
      have hall : made.filter (fun a => a.call = other) = made :=
        List.filter_eq_self.mpr fun a ha => decide_eq_true (hmade a ha).1
      obtain rfl : call = call' := Option.some.inj (hcall.symm.trans hcall')
      obtain ⟨old, hold⟩ := h.exists_op hcall
      rw [getElem?_set_of_some hold op] at hop'
      obtain rfl := Option.some.inj hop'
      rw [attemptsOf, List.filter_append, hall]
      exact hop
    · have hnone : made.filter (fun a => a.call = other) = [] :=
        List.filter_eq_nil_iff.mpr fun a ha hcall =>
          hother ((of_decide_eq_true hcall).symm.trans (hmade a ha).1)
      rw [List.getElem?_set_ne (Ne.symm hother)] at hop'
      rw [attemptsOf, List.filter_append, hnone, List.append_nil]
      exact h.standing hcall' hop'

/-- An attempt leads from the present store to the next. -/
theorem attempt (h : Consistent calls name first c) {number : Nat} {call : StoreCall}
    (hcall : calls[number]? = some call) {next : Outcome → Operation}
    (hop : Operation.Attempting name call.request (.act (.attempt name call.request) next))
    (hfailed : ∀ a ∈ c.attemptsOf number, a.isEffective = false)
    (hturn : c.ops[number]? = some (.act (.attempt name call.request) next)) :
    Consistent calls name first (c.turn number) := by
  obtain ⟨last, hlast, hledger⟩ := h.kept
  have hmade := Attempt.ofAct_attempt hlast number call.request
  rw [turn_act hturn, hmade, World.perform_attempt hlast]
  refine h.update hcall _ ?_ ⟨(last.attempt call.request).2, World.lookup_rebind hlast _, ?_⟩ ?_
  · simp
  · exact .snoc hledger rfl
  · exact .attempted hop hfailed _

theorem turn (h : Consistent calls name first c) (number : Nat) :
    Consistent calls name first (c.turn number) := by
  cases hturn : c.ops[number]? with
  | none => simpa only [Calls.turn, hturn] using h
  | some op =>
    obtain ⟨call, hcall, hstanding⟩ := h.standing_of_op hturn
    generalize hown : c.attemptsOf number = own at hstanding
    cases hstanding with
    | returned hfailed => simpa only [Calls.turn, hturn] using h
    | underWay hop hfailed =>
      subst hown
      -- What does not touch the store leaves the attempts as they are.
      have hidle {rest : Operation} {world : World}
          (hrest : rest.Attempting name call.request)
          (hworld : world.stores = c.world.stores) :
          Consistent calls name first ⟨c.ops.set number rest, world, c.attempts ++ []⟩ :=
        h.update hcall [] (by simp) (by simpa [hworld] using h.kept)
          (by simpa using .underWay hrest hfailed)
      cases hop with
      | report hnext =>
        rw [turn_act hturn]
        exact hidle hnext rfl
      | sleep hnext =>
        rw [turn_sleep hturn, ← List.append_nil c.attempts]
        exact hidle hnext rfl
      | last hend => exact h.attempt hcall (.last hend) hfailed hturn
      | attempt hok herror => exact h.attempt hcall (.attempt hok herror) hfailed hturn

theorem after (h : Consistent calls name first c) (order : List Nat) :
    Consistent calls name first (c.after order) := by
  induction order generalizing c with
  | nil => exact h
  | cons number order ih => exact ih (h.turn number)

/-- Each call has at most one attempt that returns a value. -/
theorem nodup_effective (h : Consistent calls name first c) :
    (c.effective.map Attempt.call).Nodup := by
  rw [List.nodup_iff_count_le_one]
  intro number
  have hcount : (c.effective.map Attempt.call).count number =
      ((c.attemptsOf number).filter Attempt.isEffective).length := by
    rw [List.count, List.countP_map, List.countP_eq_length_filter, effective, attemptsOf,
      List.filter_comm]
    rfl
  rw [hcount]
  by_cases hnumber : number < calls.length
  · obtain ⟨op, hop⟩ := h.exists_op (List.getElem?_eq_getElem hnumber)
    obtain ⟨call, hcall, hstanding⟩ := h.standing_of_op hop
    exact hstanding.length_effective_le
  · have hnone : c.attemptsOf number = [] := by
      refine List.filter_eq_nil_iff.mpr fun a ha heq => ?_
      obtain ⟨call, hcall, -⟩ := h.asked a ha
      rw [of_decide_eq_true heq] at hcall
      exact hnumber (List.getElem?_eq_some_iff.mp hcall).1
    simp [hnone]

/-- How each attempt of a call has ended. -/
theorem ends (h : Consistent calls name first c) (number : Nat) :
    ∀ a ∈ c.attemptsOf number, a.before.AttemptEnds a.request a.outcome a.after := by
  obtain ⟨last, -, hledger⟩ := h.kept
  exact fun a ha => hledger.ends a (List.mem_of_mem_filter ha)

/-- A call that fails has had no effect. -/
theorem records_of_error (h : Consistent calls name first c) {number : Nat} {failure : Failure}
    (hreturned : c.Returned number (.error failure)) :
    ∀ a ∈ c.attemptsOf number, a.after.records = a.before.records := by
  obtain ⟨call, hcall, hstanding⟩ := h.standing_of_op hreturned
  obtain ⟨failed, last, hown, houtcome, hfailed⟩ := hstanding.of_settled
  intro a ha
  have hends := h.ends number a ha
  have herror : ∃ failure, a.outcome = .error failure := by
    rw [hown] at ha
    rcases List.mem_append.mp ha with hearlier | hlast
    · exact Attempt.eq_error_of_not_effective (hfailed a hearlier)
    · exact ⟨failure, List.mem_singleton.mp hlast ▸ houtcome⟩
  obtain ⟨failure, herror⟩ := herror
  rw [herror] at hends
  exact hends.records_of_error

/-- A call that returns a value has executed its request in its last attempt. The attempts before
were refused. -/
theorem executed_of_ok (h : Consistent calls name first c) {number : Nat} {v : Value}
    (hreturned : c.Returned number (.ok v)) :
    ∃ failed last, c.attemptsOf number = failed ++ [last] ∧ last.outcome = .ok v ∧
      last.before.execute last.request = (.ok v, last.after) ∧
      ∀ a ∈ failed, a.isRefused = true := by
  obtain ⟨call, hcall, hstanding⟩ := h.standing_of_op hreturned
  obtain ⟨failed, last, hown, houtcome, hfailed⟩ := hstanding.of_settled
  have hlast : last ∈ c.attemptsOf number := by simp [hown]
  have hends := h.ends number last hlast
  rw [houtcome] at hends
  obtain ⟨haccepts, hexecute⟩ := hends.execute_of_ok
  refine ⟨failed, last, hown, houtcome, hexecute, fun a ha => ?_⟩
  have hmem : a ∈ c.attemptsOf number := hown ▸ List.mem_append_left [last] ha
  obtain ⟨failure, herror⟩ := Attempt.eq_error_of_not_effective (hfailed a ha)
  have hends := h.ends number a hmem
  have hrequest : a.request = last.request :=
    (h.request_eq hcall a hmem).trans (h.request_eq hcall last hlast).symm
  rw [herror] at hends
  rw [Attempt.isRefused, herror]
  exact decide_eq_true (hends.refused_of_accepts (hrequest ▸ haccepts))

/-- The calls that return a value are those with an attempt that has returned it. -/
theorem returned_iff (h : Consistent calls name first c) (number : Nat) (v : Value) :
    c.Returned number (.ok v) ↔ ∃ a ∈ c.effective, a.call = number ∧ a.outcome = .ok v := by
  constructor
  · intro hreturned
    obtain ⟨failed, last, hown, houtcome, -⟩ := h.executed_of_ok hreturned
    have hlast : last ∈ c.attemptsOf number := by simp [hown]
    obtain ⟨hmem, hnumber⟩ := List.mem_filter.mp hlast
    have heffective : last.isEffective = true := by rw [Attempt.isEffective, houtcome]
    exact ⟨last, List.mem_filter.mpr ⟨hmem, heffective⟩, of_decide_eq_true hnumber, houtcome⟩
  · rintro ⟨a, ha, hnumber, houtcome⟩
    obtain ⟨hmem, heffective⟩ := List.mem_filter.mp ha
    obtain ⟨call, hcall, -⟩ := h.asked a hmem
    rw [hnumber] at hcall
    obtain ⟨op, hop⟩ := h.exists_op hcall
    obtain ⟨call', -, hstanding⟩ := h.standing_of_op hop
    have hown : a ∈ c.attemptsOf number := List.mem_filter.mpr ⟨hmem, decide_eq_true hnumber⟩
    rw [Returned, hop, hstanding.settled_of_effective hown heffective, houtcome]

end Consistent

end Calls

/-! ## The turns of a machine -/

/-- A task has come as far as an operation. -/
inductive Task.At : Task → Operation → Prop where
  | ready (op : Operation) : At (.ready op) op
  | asleep (deadline ms : Nat) (ticket : Option Nat) (held : List Claim) (next : Operation) :
    At (.resting (.asleep deadline ticket held next)) (.sleep ms held next)
  | listening (channel : Channel) (noticed : Bool) (held : List Claim)
    (next : Outcome → Operation) :
    At (.resting (.listening channel noticed held next)) (.receive channel held next)
  | ended (outcome : Outcome) : At (.ended outcome) (.settled outcome)

namespace Calls

theorem after_append (c : Calls) (order later : List Nat) :
    c.after (order ++ later) = (c.after order).after later := List.foldl_append

/-- With some turns, a call comes as far as a task that has been polled. -/
def Reaches (c : Calls) (number : Nat) (polled : Task × Machine) : Prop :=
  ∃ count op attempts, c.after (List.replicate count number) =
    ⟨c.ops.set number op, polled.2.world, attempts⟩ ∧ polled.1.At op

variable {c : Calls} {number : Nat} {op : Operation}

theorem reaches_self {polled : Task × Machine} (hop : c.ops[number]? = some op)
    (hworld : polled.2.world = c.world) (hat : polled.1.At op) : c.Reaches number polled := by
  have hset : c.ops.set number op = c.ops := by
    obtain ⟨hnumber, rfl⟩ := List.getElem?_eq_some_iff.mp hop
    exact List.set_getElem_self hnumber
  refine ⟨0, op, c.attempts, ?_, hat⟩
  rw [hset, hworld]
  rfl

theorem reaches_turn {polled : Task × Machine} {w : World} {attempts : List Attempt}
    (hturn : c.turn number = ⟨c.ops.set number op, w, attempts⟩)
    (h : Reaches ⟨c.ops.set number op, w, attempts⟩ number polled) : c.Reaches number polled := by
  obtain ⟨count, op', attempts', hafter, hat⟩ := h
  refine ⟨count + 1, op', attempts', ?_, hat⟩
  rw [List.set_set] at hafter
  rw [List.replicate_succ, after, List.foldl_cons, hturn]
  exact hafter

/-- A machine that follows a call gives it turns. -/
theorem reaches_follow (who : Party) {m : Machine} (hworld : m.world = c.world)
    (hop : c.ops[number]? = some op) :
    c.Reaches number ((m.follow who op).map Progress.task id) := by
  induction op generalizing m c with
  | settled outcome => exact reaches_self hop hworld (.ended outcome)
  | act a next ih =>
    rw [Machine.follow_act, hworld]
    exact reaches_turn (turn_act hop) (ih _ rfl (getElem?_set_of_some hop _))
  | sleep ms held next ih =>
    rw [Machine.follow]
    by_cases hspent : m.allowance = 0
    · rw [if_pos hspent]
      exact reaches_self hop (by simpa using hworld) (.asleep ..)
    rw [if_neg hspent]
    by_cases hms : ms = 0
    · rw [if_pos hms]
      exact reaches_turn (turn_sleep hop) (ih hworld (getElem?_set_of_some hop next))
    · rw [if_neg hms]
      exact reaches_self hop hworld (.asleep ..)
  | receive channel held next ih =>
    rw [Machine.follow]
    by_cases hspent : m.allowance = 0
    · rw [if_pos hspent]
      exact reaches_self hop (by simpa using hworld) (.listening ..)
    rw [if_neg hspent]
    split
    · rename_i outcome hsent
      exact reaches_turn (turn_receive hop (hworld ▸ hsent))
        (ih outcome hworld (getElem?_set_of_some hop _))
    · exact reaches_self hop hworld (.listening ..)

theorem reaches_resume (who : Party) {m : Machine} {r : Resting} (hworld : m.world = c.world)
    (hop : c.ops[number]? = some op) (hat : (Task.resting r).At op) :
    c.Reaches number ((m.resume who r).map Progress.task id) := by
  rw [Machine.resume.eq_def]
  by_cases hspent : m.allowance = 0
  · rw [if_pos hspent]
    exact reaches_self hop (by simpa using hworld) hat
  rw [if_neg hspent]
  cases hat with
  | asleep deadline ms ticket held next =>
    simp only
    by_cases hdue : deadline ≤ m.now
    · rw [if_pos hdue]
      exact reaches_turn (turn_sleep hop)
        (reaches_follow who hworld (getElem?_set_of_some hop next))
    · rw [if_neg hdue]
      cases ticket <;> exact reaches_self hop hworld (.asleep ..)
  | listening channel noticed held next =>
    simp only
    split
    · rename_i outcome hsent
      exact reaches_turn (turn_receive hop (hworld ▸ hsent))
        (reaches_follow who hworld (getElem?_set_of_some hop _))
    · exact reaches_self hop hworld (.listening ..)

theorem reaches_poll (who : Party) {m : Machine} {task : Task} (hworld : m.world = c.world)
    (hop : c.ops[number]? = some op) (hat : task.At op) :
    c.Reaches number (task.poll who m) := by
  cases task with
  | ready op =>
    cases hat
    exact reaches_follow who hworld hop
  | resting r => exact reaches_resume who hworld hop hat
  | ended outcome => exact reaches_self hop hworld hat

end Calls

namespace Machine

@[simp]
theorem tasks_postpone (m : Machine) (who : Party) : (m.postpone who).tasks = m.tasks := by
  unfold postpone
  split <;> rfl

@[simp]
theorem tasks_enqueue (m : Machine) (id : Nat) : (m.enqueue id).tasks = m.tasks := by
  unfold enqueue
  split <;> rfl

theorem tasks_follow (who : Party) (op : Operation) (m : Machine) :
    (m.follow who op).2.tasks = m.tasks := by
  induction op generalizing m with
  | settled outcome => rfl
  | act a next ih => exact ih _ _
  | sleep ms held next ih =>
    rw [follow]
    by_cases hspent : m.allowance = 0
    · simp [hspent]
    by_cases hms : ms = 0
    · rw [if_neg hspent, if_pos hms]
      exact ih m.spend
    · rw [if_neg hspent, if_neg hms]
  | receive channel held next ih =>
    rw [follow]
    by_cases hspent : m.allowance = 0
    · simp [hspent]
    rw [if_neg hspent]
    split
    · exact ih _ m.spend
    · rfl

theorem tasks_resume (who : Party) (r : Resting) (m : Machine) :
    (m.resume who r).2.tasks = m.tasks := by
  rw [resume.eq_def]
  by_cases hspent : m.allowance = 0
  · simp [hspent]
  rw [if_neg hspent]
  cases r with
  | asleep deadline ticket held next =>
    simp only
    by_cases hdue : deadline ≤ m.now
    · rw [if_pos hdue]
      exact tasks_follow who next m.spend
    · rw [if_neg hdue]
      cases ticket <;> rfl
  | listening channel noticed held next =>
    simp only
    split
    · exact tasks_follow who _ m.spend
    · rfl

theorem tasks_poll (who : Party) (task : Task) (m : Machine) :
    (task.poll who m).2.tasks = m.tasks := by
  cases task with
  | ready op => exact tasks_follow who op m
  | resting r => exact tasks_resume who r m
  | ended outcome => rfl

/-- The tasks of a machine are calls that are under way in its world. -/
structure Carries (m : Machine) (c : Calls) : Prop where
  /-- The world is the same. -/
  world : m.world = c.world
  /-- There is a task for each call. -/
  size : m.tasks.size = c.ops.length
  /-- Each task has come as far as its call. -/
  tasks : ∀ {number : Nat} {task : Task} {op : Operation}, m.tasks[number]? = some task →
    c.ops[number]? = some op → task.At op

namespace Carries

variable {m m' : Machine} {c : Calls}

theorem of_same (h : m.Carries c) (hworld : m'.world = m.world) (htasks : m'.tasks = m.tasks) :
    m'.Carries c where
  world := hworld.trans h.world
  size := by rw [htasks, h.size]
  tasks := by rw [htasks]; exact h.tasks

/-- The turn of a task consists of turns of its call. -/
theorem runTask (h : m.Carries c) (id : Nat) :
    ∃ order, (m.runTask id).Carries (c.after order) := by
  cases htask : m.tasks[id]? with
  | none =>
    rw [Machine.runTask, htask]
    exact ⟨[], h⟩
  | some task =>
    by_cases hended : ∃ outcome, task = .ended outcome
    · obtain ⟨outcome, rfl⟩ := hended
      rw [Machine.runTask, htask]
      exact ⟨[], h⟩
    have hid : id < c.ops.length := h.size ▸ (Array.getElem?_eq_some_iff.mp htask).1
    have hop : c.ops[id]? = some c.ops[id] := List.getElem?_eq_getElem hid
    obtain ⟨count, op, attempts, hafter, hat⟩ :=
      Calls.reaches_poll (.task id) (m := m.beginTurn) h.world hop (h.tasks htask hop)
    refine ⟨List.replicate count id, ?_⟩
    rw [runTask_eq_poll htask (not_exists.mp hended), hafter]
    have htasks : (task.poll (.task id) m.beginTurn).2.tasks = m.tasks :=
      tasks_poll (.task id) task m.beginTurn
    refine ⟨rfl, ?_, fun {number task' op'} htask' hop' => ?_⟩
    · rw [htasks, Array.size_setIfInBounds, List.length_set]
      exact h.size
    rw [htasks] at htask'
    by_cases hnumber : number = id
    · subst hnumber
      rw [Calls.getElem?_set_of_some hop] at hop'
      rw [Array.getElem?_setIfInBounds_self_of_lt (Array.getElem?_eq_some_iff.mp htask).1]
        at htask'
      rw [← Option.some.inj htask', ← Option.some.inj hop']
      exact hat
    · rw [Array.getElem?_setIfInBounds_ne (Ne.symm hnumber)] at htask'
      rw [List.getElem?_set_ne (Ne.symm hnumber)] at hop'
      exact h.tasks htask' hop'

theorem runTasks (h : m.Carries c) (count : Nat) :
    ∃ order, (m.runTasks count).2.Carries (c.after order) := by
  induction count generalizing m c with
  | zero => exact ⟨[], h⟩
  | succ count ih =>
    rw [Machine.runTasks.eq_def]
    simp only
    split
    · exact ⟨[], h⟩
    · rename_i id queue _
      have hqueue : Carries { m with queue := queue } c := h.of_same rfl rfl
      obtain ⟨order, hturn⟩ := hqueue.runTask id
      obtain ⟨later, hlater⟩ := ih hturn
      exact ⟨order ++ later, by rwa [Calls.after_append]⟩

theorem enqueueAll (h : m.Carries c) (ids : List Nat) : (ids.foldl enqueue m).Carries c := by
  induction ids generalizing m with
  | nil => exact h
  | cons id ids ih => exact ih (h.of_same (world_enqueue m id) (tasks_enqueue m id))

theorem wakePostponed (h : m.Carries c) : m.wakePostponed.Carries c := by
  refine List.foldlRecOn (motive := (Carries · c)) _ _ (h.of_same rfl rfl) fun m h who _ => ?_
  cases who with
  | foreground => exact h
  | task id => exact h.of_same (world_enqueue m id) (tasks_enqueue m id)

theorem settleRound (h : m.Carries c) (left : Nat) (waiting : Foreground) (limit : Nat) :
    (m.settleRound left waiting limit).Carries c := by
  rw [Machine.settleRound]
  split
  · exact h.wakePostponed
  split
  · exact h
  · have hlater : Carries { m with now := m.nextInstant waiting limit } c := h.of_same rfl rfl
    exact hlater.enqueueAll _

/-- The foreground does nothing but wait for a task. -/
theorem proceed (h : m.Carries c) (id : Nat) :
    (m.proceed (.task id)).2.Carries c ∧
      ∀ still, (m.proceed (.task id)).1 = .inr still → still = .task id := by
  rw [Machine.proceed.eq_def]
  simp only
  split
  · exact ⟨h.of_same (world_postpone ..) (tasks_postpone ..), fun _ heq => (Sum.inr.inj heq).symm⟩
  split
  · exact ⟨h.of_same rfl rfl, nofun⟩
  · exact ⟨h, fun _ heq => (Sum.inr.inj heq).symm⟩

theorem waitUntil (h : m.Carries c) (limit rounds id : Nat) :
    ∃ order, (m.waitUntil limit rounds (.task id)).2.Carries (c.after order) := by
  induction rounds generalizing m c with
  | zero => exact ⟨[], h⟩
  | succ rounds ih =>
    obtain ⟨order, hround⟩ := h.runTasks roundSize
    rcases hrun : m.runTasks roundSize with ⟨left, m₁⟩
    rw [hrun] at hround
    have hsettled : (m₁.settleRound left (.task id) limit).Carries (c.after order) :=
      hround.settleRound left (.task id) limit
    have hbegun : (m₁.settleRound left (.task id) limit).beginTurn.Carries (c.after order) :=
      hsettled.of_same rfl rfl
    obtain ⟨hproceed, hstill⟩ := hbegun.proceed id
    rw [Machine.waitUntil, hrun]
    simp only
    split
    · rename_i heq
      rw [heq] at hproceed
      exact ⟨order, hproceed⟩
    · rename_i still m' heq
      rw [heq] at hproceed hstill
      obtain rfl := hstill still rfl
      split
      · exact ⟨order, hproceed⟩
      · obtain ⟨later, hlater⟩ := ih hproceed
        exact ⟨order ++ later, by rwa [Calls.after_append]⟩

/-- While the foreground waits for a task, the machine gives the calls turns in some order. -/
theorem wait (h : m.Carries c) (id limit : Nat) :
    ∃ order, (m.wait (.task id) limit).2.Carries (c.after order) := by
  obtain ⟨hproceed, hstill⟩ := h.proceed id
  rw [Machine.wait]
  split
  · rename_i heq
    rw [heq] at hproceed
    exact ⟨[], hproceed⟩
  · rename_i still m' heq
    rw [heq] at hproceed hstill
    rw [hstill still rfl]
    exact hproceed.waitUntil limit maxRounds id

theorem spawn (h : m.Carries c) (p : Pending) :
    (m.spawn p).2.Carries { c with ops := c.ops ++ [p.start] } where
  world := (world_enqueue ..).trans h.world
  size := by simp [Machine.spawn, h.size]
  tasks {number task op} htask hop := by
    have htasks : (m.spawn p).2.tasks = m.tasks.push (.ready p.start) := tasks_enqueue ..
    rw [htasks] at htask
    by_cases hnumber : number = m.tasks.size
    · rw [hnumber, Array.getElem?_push_size] at htask
      rw [hnumber, h.size, List.getElem?_concat_length] at hop
      obtain rfl := Option.some.inj htask
      obtain rfl := Option.some.inj hop
      exact .ready _
    · rw [Array.getElem?_push, if_neg hnumber] at htask
      have hlt : number < c.ops.length := h.size ▸ (Array.getElem?_eq_some_iff.mp htask).1
      rw [List.getElem?_append_left hlt] at hop
      exact h.tasks htask hop

end Carries

/-- A machine that has started operations in the background. -/
def spawning (w : World) (pendings : List Pending) : Machine :=
  pendings.foldl (fun m p => (m.spawn p).2) { world := w }

theorem carries_spawning (w : World) (pendings : List Pending) :
    (spawning w pendings).Carries { ops := pendings.map Pending.start, world := w } := by
  have hspawned : ∀ {m : Machine} {c : Calls}, m.Carries c →
      Carries (pendings.foldl (fun m p => (m.spawn p).2) m)
        { c with ops := c.ops ++ pendings.map Pending.start } := by
    induction pendings with
    | nil => intro m c h; simpa using h
    | cons p pendings ih =>
      intro m c h
      simpa using ih (h.spawn p)
  have hempty : Carries { world := w } ⟨[], w, []⟩ := ⟨rfl, rfl, nofun⟩
  exact hspawned hempty

/-- A machine that has started the calls in the background. -/
def calling (w : World) (calls : List StoreCall) : Machine :=
  calls.foldl (fun m call => (m.spawn (call.service.call call.request)).2) { world := w }

theorem carries_calling (w : World) (calls : List StoreCall) :
    (calling w calls).Carries (Calls.start w calls) := by
  have h := carries_spawning w (calls.map fun call => call.service.call call.request)
  rw [spawning, List.foldl_map, List.map_map] at h
  exact h

/-- Waits for tasks, one after the other, each time until an instant at most. -/
def joining (m : Machine) (waits : List (Nat × Nat)) : Machine :=
  waits.foldl (fun m wait => (m.wait (.task wait.1) wait.2).2) m

theorem Carries.joining {m : Machine} {c : Calls} (h : m.Carries c) (waits : List (Nat × Nat)) :
    ∃ order, (m.joining waits).Carries (c.after order) := by
  induction waits generalizing m c with
  | nil => exact ⟨[], h⟩
  | cons wait waits ih =>
    obtain ⟨order, hwait⟩ := h.wait wait.1 wait.2
    obtain ⟨later, hlater⟩ := ih hwait
    exact ⟨order ++ later, by rwa [Calls.after_append]⟩

end Machine

/-- Calls of one store that are under way at the same time take effect once or not at all, whatever
the order of their turns. An attempt is refused as long as refusals are due, and no longer. A call
that fails leaves the records as they are. A call that returns a value has executed its request
once, in its last attempt. And the store is left, and the values are returned, as if the calls that
return a value had been executed one after the other, in the order of their last attempts. A machine
that has the calls as its tasks gives them their turns in such an order. -/
theorem store_calls_take_effect_once {w : World} {name : String} {store : Store}
    {calls : List StoreCall} (hstore : w.stores.lookup name = some store)
    (hcalls : ∀ call ∈ calls, call.service.store = name) :
    (∀ order : List Nat,
      let c := (Calls.start w calls).after order
      ∃ left : Store, c.world.stores.lookup name = some left ∧ Ledger store c.attempts left ∧
        (c.refused.length = min store.failures c.attempts.length ∧
          left.failures + c.refused.length = store.failures) ∧
        (∀ number failure, c.Returned number (.error failure) →
          ∀ a ∈ c.attemptsOf number, a.after.records = a.before.records) ∧
        (∀ number v, c.Returned number (.ok v) →
          ∃ failed last, c.attemptsOf number = failed ++ [last] ∧ last.outcome = .ok v ∧
            last.before.execute last.request = (.ok v, last.after) ∧
            ∀ a ∈ failed, a.isRefused = true) ∧
        (∀ a ∈ c.attempts, ∃ call, calls[a.call]? = some call ∧ a.request = call.request) ∧
        (c.effective.map Attempt.call).Nodup ∧
        (∀ number v, c.Returned number (.ok v) ↔
          ∃ a ∈ c.effective, a.call = number ∧ a.outcome = .ok v) ∧
        Store.executeAll { store with failures := 0 } (c.effective.map Attempt.request) =
          (c.effective.map Attempt.outcome, { left with failures := 0 })) ∧
    ∀ waits : List (Nat × Nat), ∃ order,
      ((Machine.calling w calls).joining waits).Carries ((Calls.start w calls).after order) := by
  refine ⟨fun order => ?_, (Machine.carries_calling w calls).joining⟩
  intro c
  have h : c.Consistent calls name store := (Calls.consistent_start hstore hcalls).after order
  obtain ⟨left, hleft, hledger⟩ := h.kept
  obtain ⟨hcount, hfailures⟩ := hledger.refused
  have hremaining : left.failures + c.refused.length = store.failures := by
    rw [Calls.refused, hcount, hfailures]
    omega
  exact ⟨left, hleft, hledger, ⟨hcount, hremaining⟩, fun _ _ => h.records_of_error,
    fun _ _ => h.executed_of_ok, h.asked, h.nodup_effective, h.returned_iff, hledger.executed⟩

/-- A store that refuses two attempts. -/
def refusingTwice : World := { stores := [("records", { failures := 2 })] }

/-- A record is saved, with retries, and loaded twice. -/
def saveAndLoads : List StoreCall :=
  [⟨⟨"records", some 5, some ⟨3, 10⟩⟩, ⟨"save", [.str "a", .bool true]⟩⟩,
    ⟨⟨"records", none, none⟩, ⟨"load", [.str "a"]⟩⟩,
    ⟨⟨"records", none, none⟩, ⟨"load", [.str "a"]⟩⟩]

/-- The first load is refused between two attempts to save, and the other one comes last. -/
theorem store_calls_of_save_and_loads :
    (refusingTwice.stores.lookup "records" = some { failures := 2 } ∧
        ∀ call ∈ saveAndLoads, call.service.store = "records") ∧
      ∃ c left, c = (Calls.start refusingTwice saveAndLoads).after [0, 0, 1, 0, 0, 0, 0, 2] ∧
        c.world.stores.lookup "records" = some left ∧
        c.Returned 1 (.error (.handler "db" "load failed: store unavailable")) ∧
        (∀ a ∈ c.attemptsOf 1, a.after.records = a.before.records) ∧
        c.Returned 0 (.ok (.bool true)) ∧ c.Returned 2 (.ok (.bool true)) ∧
        left.failures + c.refused.length = 2 ∧
        (c.effective.map Attempt.call).Nodup ∧
        Store.executeAll {} (c.effective.map Attempt.request) =
          (c.effective.map Attempt.outcome, { left with failures := 0 }) := by
  have hstore : refusingTwice.stores.lookup "records" = some { failures := 2 } := rfl
  have hcalls : ∀ call ∈ saveAndLoads, call.service.store = "records" := by simp [saveAndLoads]
  obtain ⟨left, hleft, -, ⟨-, hremaining⟩, herror, -, -, hnodup, -, hexecuted⟩ :=
    (store_calls_take_effect_once hstore hcalls).1 [0, 0, 1, 0, 0, 0, 0, 2]
  exact ⟨⟨hstore, hcalls⟩, _, left, rfl, hleft, rfl, herror 1 _ rfl, rfl, rfl, hremaining, hnodup,
    hexecuted⟩

end Effects
