import Effects.World

/-!
# Attempts to execute requests

An attempt has one of three ends. It is refused, if a refusal is due; it fails, if its request
cannot be understood; else it is effective. `Store.execute_cases` says that the last two depend on
the request alone. What attempts do to a store, one after the other, is a `Ledger`: attempts are
refused as long as refusals are due, and the effective ones are an execution of their requests.

A call makes attempts at one request until one of them is effective, or until it gives up. How far
it has come is its `Standing`.
-/

namespace Effects

/-! ## Executing requests -/

/-- The failure of an attempt that is refused. -/
def StoreRequest.unavailable (r : StoreRequest) : Failure :=
  .handler "db" (r.method ++ " failed: store unavailable")

namespace Store

/-- Executes requests one after the other. -/
def executeAll (s : Store) : List StoreRequest → List Outcome × Store
  | [] => ([], s)
  | r :: later =>
    let (outcome, s) := s.execute r
    let (outcomes, s) := s.executeAll later
    (outcome :: outcomes, s)

theorem executeAll_concat (s : Store) (requests : List StoreRequest) (r : StoreRequest) :
    s.executeAll (requests ++ [r]) =
      ((s.executeAll requests).1 ++ [((s.executeAll requests).2.execute r).1],
        ((s.executeAll requests).2.execute r).2) := by
  induction requests generalizing s with
  | nil => rfl
  | cons first requests ih =>
    have hlater := ih (s.execute first).2
    simp only [List.cons_append, executeAll, hlater]

/-- The request can be understood: every store answers it, and changes its records at most. -/
def Accepts (r : StoreRequest) : Prop :=
  ∃ (answer : Fields Value → Value) (change : Fields Value → Fields Value),
    ∀ s : Store, s.execute r = (.ok (answer s.records), { s with records := change s.records })

/-- The request cannot be understood: it fails with every store, always in the same way, and changes
nothing. The failure is not the one of a refused attempt. -/
def Rejects (r : StoreRequest) (failure : Failure) : Prop :=
  failure ≠ r.unavailable ∧ ∀ s : Store, s.execute r = (.error failure, s)

theorem ne_of_getLast?_ne {s t : String} (h : s.toList.getLast? ≠ t.toList.getLast?) : s ≠ t :=
  fun heq => h (congrArg (fun u : String => u.toList.getLast?) heq)

theorem identifier_ne_unavailable {r : StoreRequest} {failure : Failure}
    (hfailure : identifier r = .error failure) : failure ≠ r.unavailable := by
  simp only [identifier] at hfailure
  split at hfailure
  · cases hfailure
  · cases hfailure
    intro heq
    injection heq with _ hmessage
    exact ne_of_getLast?_ne (by simp) hmessage

/-- A request about an identifier can be understood if it has one. -/
theorem cases_of_identifier {r : StoreRequest} (answer : String → Fields Value → Value)
    (change : String → Fields Value → Fields Value)
    (h : ∀ s : Store, s.execute r =
      match identifier r with
      | .ok name => (.ok (answer name s.records), { s with records := change name s.records })
      | .error failure => (.error failure, s)) :
    Accepts r ∨ ∃ failure, Rejects r failure := by
  cases hname : identifier r with
  | ok name =>
    have hexecute : ∀ s : Store, s.execute r =
        (.ok (answer name s.records), { s with records := change name s.records }) := by
      intro s
      rw [h, hname]
    exact .inl ⟨answer name, change name, hexecute⟩
  | error failure =>
    have hexecute : ∀ s : Store, s.execute r = (.error failure, s) := by
      intro s
      rw [h, hname]
    exact .inr ⟨failure, identifier_ne_unavailable hname, hexecute⟩

/-- Whether a request can be understood does not depend on the store. -/
theorem execute_cases (r : StoreRequest) : Accepts r ∨ ∃ failure, Rejects r failure := by
  obtain ⟨method, args⟩ := r
  by_cases hload : method = "load"
  · subst hload
    exact cases_of_identifier (fun name records => (records.get? name).getD .null)
      (fun _ records => records) fun _ => rfl
  by_cases hsave : method = "save"
  · subst hsave
    exact cases_of_identifier (fun _ _ => args[1]?.getD .null)
      (fun name records => records.insert name (args[1]?.getD .null)) fun _ => rfl
  by_cases hdelete : method = "delete"
  · subst hdelete
    exact cases_of_identifier (fun name records => .bool (records.get? name).isSome)
      (fun name records => records.erase name) fun _ => rfl
  by_cases hlist : method = "list"
  · subst hlist
    exact .inl ⟨fun records => .list (records.names.map .str), fun records => records, fun _ => rfl⟩
  refine .inr ⟨.handler "db" ("unknown method '" ++ method ++ "'"), ?_, fun s => ?_⟩
  · intro heq
    injection heq with _ hmessage
    exact ne_of_getLast?_ne (by simp [List.getLast?_cons]) hmessage
  · simp [execute]

/-! ## One attempt -/

/-- How an attempt can end. -/
inductive AttemptEnds (s : Store) (r : StoreRequest) : Outcome → Store → Prop where
  /-- A refusal was due, and is used up. -/
  | refused {n : Nat} (hdue : s.failures = n + 1) :
    AttemptEnds s r (.error r.unavailable) { s with failures := n }
  /-- The request cannot be understood. -/
  | rejected (hnone : s.failures = 0) {failure : Failure} (hrejects : Rejects r failure) :
    AttemptEnds s r (.error failure) s
  /-- The request has been executed. -/
  | effective (hnone : s.failures = 0) (haccepts : Accepts r) {v : Value} {s' : Store}
    (hexecute : s.execute r = (.ok v, s')) (hleft : s'.failures = 0) :
    AttemptEnds s r (.ok v) s'

theorem attempt_ends (s : Store) (r : StoreRequest) :
    AttemptEnds s r (s.attempt r).1 (s.attempt r).2 := by
  unfold attempt
  split
  · next hnone =>
    rcases execute_cases r with haccepts | ⟨failure, hrejects⟩
    · obtain ⟨answer, change, hexecute⟩ := haccepts
      have hends := hexecute s
      rw [hends]
      exact .effective hnone ⟨answer, change, hexecute⟩ hends hnone
    · rw [hrejects.2 s]
      exact .rejected hnone hrejects
  · next n hdue => exact .refused hdue

end Store

/-- An attempt that has been made. -/
structure Attempt where
  /-- The number of the call that has made it. -/
  call : Nat
  /-- What was asked for. -/
  request : StoreRequest
  /-- How it ended. -/
  outcome : Outcome
  /-- The store before the attempt. -/
  before : Store
  /-- The store after the attempt. -/
  after : Store

namespace Attempt

/-- The attempt was refused. -/
def isRefused (a : Attempt) : Bool :=
  match a.outcome with
  | .error failure => failure = a.request.unavailable
  | .ok _ => false

/-- The attempt has returned a value. -/
def isEffective (a : Attempt) : Bool :=
  match a.outcome with
  | .ok _ => true
  | .error _ => false

theorem eq_error_of_not_effective {a : Attempt} (h : a.isEffective = false) :
    ∃ failure, a.outcome = .error failure := by
  cases houtcome : a.outcome with
  | ok v => simp [isEffective, houtcome] at h
  | error failure => exact ⟨failure, rfl⟩

end Attempt

/-! ## One attempt after the other -/

/-- The attempts, one after the other, lead from the first store to the last. -/
inductive Ledger (first : Store) : List Attempt → Store → Prop where
  | nil : Ledger first [] first
  | snoc {attempts : List Attempt} {a : Attempt} (h : Ledger first attempts a.before)
    (hattempt : a.before.attempt a.request = (a.outcome, a.after)) :
    Ledger first (attempts ++ [a]) a.after

theorem Attempt.ends {a : Attempt} (h : a.before.attempt a.request = (a.outcome, a.after)) :
    a.before.AttemptEnds a.request a.outcome a.after := by
  have hends := a.before.attempt_ends a.request
  rw [h] at hends
  exact hends

theorem Store.Accepts.not_rejects {r : StoreRequest} (haccepts : Accepts r) {failure : Failure}
    (hrejects : Rejects r failure) : False := by
  obtain ⟨answer, change, hexecute⟩ := haccepts
  have hok := hexecute {}
  rw [hrejects.2] at hok
  injection hok with houtcome _
  cases houtcome

namespace Store.AttemptEnds

variable {s s' : Store} {r : StoreRequest}

/-- An attempt that fails has no effect. -/
theorem records_of_error {failure : Failure} (h : s.AttemptEnds r (.error failure) s') :
    s'.records = s.records := by
  cases h with
  | refused hdue => rfl
  | rejected hnone hrejects => rfl

/-- An attempt that returns a value has executed its request. -/
theorem execute_of_ok {v : Value} (h : s.AttemptEnds r (.ok v) s') :
    Accepts r ∧ s.execute r = (.ok v, s') := by
  cases h with
  | effective hnone haccepts hexecute hleft => exact ⟨haccepts, hexecute⟩

/-- A request that can be understood fails only if it is refused. -/
theorem refused_of_accepts {failure : Failure} (h : s.AttemptEnds r (.error failure) s')
    (haccepts : Accepts r) : failure = r.unavailable := by
  cases h with
  | refused hdue => rfl
  | rejected hnone hrejects => exact (haccepts.not_rejects hrejects).elim

end Store.AttemptEnds

namespace Ledger

variable {first last : Store} {attempts : List Attempt}

theorem ends (h : Ledger first attempts last) :
    ∀ a ∈ attempts, a.before.AttemptEnds a.request a.outcome a.after := by
  induction h with
  | nil => simp
  | snoc _ hattempt ih =>
    intro a ha
    rcases List.mem_append.mp ha with hearlier | hlast
    · exact ih a hearlier
    · rw [List.mem_singleton.mp hlast]
      exact Attempt.ends hattempt

/-- Attempts are refused as long as refusals are due, and no longer. -/
theorem refused (h : Ledger first attempts last) :
    (attempts.filter Attempt.isRefused).length = min first.failures attempts.length ∧
      last.failures = first.failures - attempts.length := by
  induction h with
  | nil => simp
  | @snoc attempts a _ hattempt ih =>
    obtain ⟨hcount, hleft⟩ := ih
    have hends := Attempt.ends hattempt
    obtain ⟨call, request, outcome, before, after⟩ := a
    simp only [List.filter_append, List.length_append, List.length_singleton] at hleft hends ⊢
    cases hends with
    | @refused n hdue =>
      have hrefused : Attempt.isRefused ⟨call, request, .error request.unavailable, before,
          { before with failures := n }⟩ = true := decide_eq_true rfl
      simp only [List.filter_cons_of_pos hrefused, List.filter_nil, List.length_singleton]
      omega
    | @rejected hnone failure hrejects =>
      have hother : ¬ Attempt.isRefused ⟨call, request, .error failure, before, before⟩ = true := by
        simpa [Attempt.isRefused] using hrejects.1
      simp only [List.filter_cons_of_neg hother, List.filter_nil, List.length_nil]
      omega
    | @effective hnone haccepts v s' hexecute hzero =>
      have hother : ¬ Attempt.isRefused ⟨call, request, .ok v, before, after⟩ = true := nofun
      simp only [List.filter_cons_of_neg hother, List.filter_nil, List.length_nil]
      omega

/-- The effective attempts are an execution of their requests, one after the other. -/
theorem executed (h : Ledger first attempts last) :
    Store.executeAll { first with failures := 0 }
        ((attempts.filter Attempt.isEffective).map Attempt.request) =
      ((attempts.filter Attempt.isEffective).map Attempt.outcome, { last with failures := 0 }) := by
  induction h with
  | nil => rfl
  | @snoc attempts a _ hattempt ih =>
    have hends := Attempt.ends hattempt
    obtain ⟨call, request, outcome, before, after⟩ := a
    simp only at hends ih
    rw [List.filter_append, List.map_append, List.map_append]
    cases hends with
    | refused hdue => simpa [Attempt.isEffective] using ih
    | rejected hnone hrejects => simpa [Attempt.isEffective] using ih
    | @effective hnone haccepts v s' hexecute hzero =>
      have hbefore : { before with failures := 0 } = before := by rw [← hnone]
      have hafter : { after with failures := 0 } = after := by rw [← hzero]
      have heffective : Attempt.isEffective ⟨call, request, .ok v, before, after⟩ = true := rfl
      rw [hbefore] at ih
      rw [List.filter_cons_of_pos heffective, List.filter_nil, List.map_singleton,
        List.map_singleton, Store.executeAll_concat, ih, hexecute, hafter]

end Ledger

/-! ## One call -/

/-- The operation makes attempts at a request: the first one that returns a value is the last. -/
inductive Operation.Attempting (store : String) (r : StoreRequest) : Operation → Prop where
  /-- It has something to report first. -/
  | report {event : Event} {next : Unit → Operation} (h : Attempting store r (next ())) :
    Attempting store r (.act (.report event) next)
  /-- It pauses first. -/
  | sleep {ms : Nat} {held : List Claim} {next : Operation} (h : Attempting store r next) :
    Attempting store r (.sleep ms held next)
  /-- It makes its last attempt. -/
  | last {next : Outcome → Operation} (hend : ∀ outcome, next outcome = .settled outcome) :
    Attempting store r (.act (.attempt store r) next)
  /-- It makes an attempt, and others if that one fails. -/
  | attempt {next : Outcome → Operation} (hok : ∀ v, next (.ok v) = .settled (.ok v))
    (herror : ∀ failure, Attempting store r (next (.error failure))) :
    Attempting store r (.act (.attempt store r) next)

namespace Service

open Operation (Attempting)

variable (s : Service) (r : StoreRequest)

theorem attempting_once : Attempting s.store r (s.once r) := by
  unfold once
  cases s.latency with
  | none => exact .last fun _ => rfl
  | some ms => exact .sleep (.last fun _ => rfl)

theorem attempting_retrying (backoff left number : Nat) :
    Attempting s.store r (s.retrying r backoff left number) := by
  induction left generalizing number with
  | zero => exact attempting_once s r
  | succ left ih =>
    have hlater (failure : Failure) : Attempting s.store r
        (.reporting .warn "store call failed, retrying"
          [("method", r.method), ("attempt", toString number), ("error", failure.message)]
          fun _ => .sleep (backoff * number) [] (s.retrying r backoff left (number + 1))) :=
      .report (.sleep (ih (number + 1)))
    unfold retrying once
    cases s.latency with
    | none => exact .attempt (fun _ => rfl) hlater
    | some ms => exact .sleep (.attempt (fun _ => rfl) hlater)

/-- A call does nothing to a store but to make attempts. -/
theorem attempting_call : Attempting s.store r (s.call r).start := by
  unfold call
  cases s.retry with
  | none => exact attempting_once s r
  | some retry => exact attempting_retrying s r retry.backoff (retry.attempts - 1) 1

end Service

/-- How far a call has come: the attempts that it has made so far, and what remains of it. -/
inductive Standing (store : String) (r : StoreRequest) : List Attempt → Operation → Prop where
  /-- It goes on, and all its attempts have failed. -/
  | underWay {failed : List Attempt} {op : Operation} (hop : op.Attempting store r)
    (hfailed : ∀ a ∈ failed, a.isEffective = false) : Standing store r failed op
  /-- It has returned what its last attempt has returned, and all the others have failed. -/
  | returned {failed : List Attempt} {last : Attempt}
    (hfailed : ∀ a ∈ failed, a.isEffective = false) :
    Standing store r (failed ++ [last]) (.settled last.outcome)

/-- After one more attempt, a call goes on if the attempt has failed and is not the last one. -/
theorem Standing.attempted {store : String} {r : StoreRequest} {failed : List Attempt}
    {next : Outcome → Operation} (hop : Operation.Attempting store r (.act (.attempt store r) next))
    (hfailed : ∀ a ∈ failed, a.isEffective = false) (a : Attempt) :
    Standing store r (failed ++ [a]) (next a.outcome) := by
  cases hop with
  | last hend =>
    rw [hend]
    exact .returned hfailed
  | attempt hok herror =>
    cases houtcome : a.outcome with
    | ok v =>
      rw [hok, ← houtcome]
      exact .returned hfailed
    | error failure =>
      refine .underWay (herror failure) fun b hb => ?_
      rcases List.mem_append.mp hb with hearlier | hlast
      · exact hfailed b hearlier
      · rw [List.mem_singleton.mp hlast, Attempt.isEffective, houtcome]

namespace Standing

variable {store : String} {r : StoreRequest} {own : List Attempt} {op : Operation}

/-- A call returns what its last attempt has returned. -/
theorem of_settled {outcome : Outcome} (h : Standing store r own (.settled outcome)) :
    ∃ failed last, own = failed ++ [last] ∧ last.outcome = outcome ∧
      ∀ a ∈ failed, a.isEffective = false := by
  cases h with
  | underWay hop hfailed => cases hop
  | @returned failed last hfailed => exact ⟨failed, last, rfl, rfl, hfailed⟩

/-- After an attempt that returns a value, a call is over. -/
theorem settled_of_effective (h : Standing store r own op) {a : Attempt} (ha : a ∈ own)
    (heffective : a.isEffective = true) : op = .settled a.outcome := by
  cases h with
  | underWay hop hfailed => rw [hfailed a ha] at heffective; cases heffective
  | returned hfailed =>
    rcases List.mem_append.mp ha with hearlier | hlast
    · rw [hfailed a hearlier] at heffective; cases heffective
    · rw [List.mem_singleton.mp hlast]

/-- At most one attempt of a call returns a value. -/
theorem length_effective_le (h : Standing store r own op) :
    (own.filter Attempt.isEffective).length ≤ 1 := by
  have hnone {failed : List Attempt} (hfailed : ∀ a ∈ failed, a.isEffective = false) :
      failed.filter Attempt.isEffective = [] :=
    List.filter_eq_nil_iff.mpr fun a ha => by simp [hfailed a ha]
  cases h with
  | underWay hop hfailed => simp [hnone hfailed]
  | @returned failed last hfailed =>
    rw [List.filter_append, hnone hfailed, List.nil_append]
    exact List.length_filter_le Attempt.isEffective [last]

end Standing

end Effects
