import Effects.Proofs.Exit

/-!
# Code that cannot see a release

When a process is dropped, its claims are given up. Code that runs next to this may run before it or
after it, and for most code this makes no difference: only a question about scopes can tell, be it
whether a scope is open, or, as far as serials go, which token comes next.

`Plan.BlindTo` says of code, in the world in which it runs, that it cannot tell whether some claims
are still held. Code that never asks about scopes is `Plan.Blind`, wherever it runs.
-/

namespace Effects

namespace World

/-! ## The order of releases -/

/-- Giving up claims changes nothing but the open scopes and the channels. -/
theorem release_eq (w : World) (claims : List Claim) :
    w.release claims =
      { w with
        openScopes := (release { openScopes := w.openScopes, channels := w.channels }
          claims).openScopes
        channels := (release { openScopes := w.openScopes, channels := w.channels }
          claims).channels } := by
  induction claims generalizing w with
  | nil => rfl
  | cons claim claims ih =>
    rw [show w.release (claim :: claims) = (w.releaseOne claim).release claims from rfl, ih]
    cases claim with
    | scope token => rfl
    | receiver channel =>
      simp only [release, List.foldl_cons, releaseOne, channelState]
      split <;> rfl

/-- A channel of which the receiving half has been dropped, among all channels. -/
def closing (channels : Array ChannelState) (channel : Channel) : Array ChannelState :=
  match channels[channel.id]?.getD .closed with
  | .open => channels.setIfInBounds channel.id .closed
  | _ => channels

theorem releaseOne_receiver (w : World) (channel : Channel) :
    w.releaseOne (.receiver channel) = { w with channels := closing w.channels channel } := by
  simp only [releaseOne, channelState, closing]
  generalize w.channels[channel.id]?.getD .closed = state
  cases state <;> rfl

theorem closing_comm (channels : Array ChannelState) (c d : Channel) :
    closing (closing channels c) d = closing (closing channels d) c := by
  obtain ⟨i⟩ := c
  obtain ⟨j⟩ := d
  by_cases hsame : i = j
  · rw [hsame]
  · simp only [closing]
    split <;> split <;>
      simp_all [Array.getElem?_setIfInBounds_ne, Array.setIfInBounds_comm, Ne.symm hsame]

theorem releaseOne_scope (w : World) (token : Token) :
    w.releaseOne (.scope token) = { w with openScopes := w.openScopes.erase token } := rfl

theorem releaseOne_comm (w : World) (claim other : Claim) :
    (w.releaseOne claim).releaseOne other = (w.releaseOne other).releaseOne claim := by
  cases claim <;> cases other <;>
    simp only [releaseOne_scope, releaseOne_receiver, List.erase_comm, closing_comm]

theorem release_comm (w : World) (claims more : List Claim) :
    (w.release claims).release more = (w.release more).release claims := by
  rw [← release_append, ← release_append]
  exact List.perm_append_comm.foldl_eq' (fun _ _ _ _ _ => releaseOne_comm _ _ _) w

/-- A scope whose claim is not among those given up can be opened before or after. -/
theorem release_opening {held : List Claim} {token : Token} (h : .scope token ∉ held) (w : World) :
    ({ w with openScopes := token :: w.openScopes } : World).release held =
      { w.release held with openScopes := token :: (w.release held).openScopes } := by
  induction held generalizing w with
  | nil => rfl
  | cons claim held ih =>
    have hlater := ih (fun hin => h (List.mem_cons_of_mem _ hin)) (w.releaseOne claim)
    have hone : ({ w with openScopes := token :: w.openScopes } : World).releaseOne claim =
        { w.releaseOne claim with openScopes := token :: (w.releaseOne claim).openScopes } := by
      cases claim with
      | scope other =>
        have hne : token ≠ other := fun heq => h (heq ▸ List.mem_cons_self)
        simp [releaseOne_scope, hne]
      | receiver channel => simp only [releaseOne_receiver]
    exact (congrArg (release · held) hone).trans hlater

end World

/-! ## Acts and plans that cannot see a release -/

/-- In the world, the act does what it does after the claims have been given up. -/
def Act.BlindTo (held : List Claim) (w : World) : Act → Prop
  | .isOpen token => .scope token ∉ held
  | .mint => .scope ⟨w.nextSerial⟩ ∉ held
  | _ => True

/-- In the world, the plan does what it does after the claims have been given up. -/
def Plan.BlindTo {α : Type} (held : List Claim) : World → Plan α → Prop
  | _, .done _ => True
  | w, .act a next =>
    a.BlindTo held w ∧ (next (w.perform a).1).BlindTo held (w.perform a).2

/-- The plan never asks about scopes. -/
def Plan.Blind {α : Type} : Plan α → Prop
  | .done _ => True
  | .act a next => (∀ token, a ≠ .isOpen token) ∧ a ≠ .mint ∧ ∀ answer, (next answer).Blind

theorem Plan.Blind.blindTo {α : Type} {plan : Plan α} (h : plan.Blind) (held : List Claim)
    (w : World) : plan.BlindTo held w := by
  induction plan generalizing w with
  | done a => trivial
  | act a next ih =>
    obtain ⟨hasks, hmints, hnext⟩ := h
    refine ⟨?_, ih _ (hnext _) _⟩
    cases a with
    | isOpen token => exact (hasks token rfl).elim
    | mint => exact (hmints rfl).elim
    | _ => trivial

/-- What comes after a plan and does not act cannot see anything. -/
theorem Plan.BlindTo.bind_done {α β : Type} {held : List Claim} {w : World} {plan : Plan α}
    (h : plan.BlindTo held w) (f : α → β) : (plan.bind fun a => .done (f a)).BlindTo held w := by
  induction plan generalizing w with
  | done a => trivial
  | act a next ih => exact ⟨h.1, ih _ h.2⟩

namespace World

variable {held : List Claim} {w : World}

theorem perform_release {a : Act} (h : a.BlindTo held w) :
    (w.release held).perform a = ((w.perform a).1, (w.perform a).2.release held) := by
  cases a with
  | mint =>
    have hserial : (w.release held).nextSerial = w.nextSerial := by rw [release_eq]
    have hopening := release_opening (w := { w with nextSerial := w.nextSerial + 1 }) h
    rw [perform, hserial]
    refine congrArg (Prod.mk _) (Eq.trans ?_ hopening.symm)
    rw [release_eq w, release_eq { w with nextSerial := w.nextSerial + 1 }]
  | release claims => exact congrArg (Prod.mk ()) (release_comm w held claims)
  | isOpen token => exact congrArg (·, w.release held) (isOpen_release h w)
  | attempt store request =>
    have hstores : (w.release held).stores = w.stores := by rw [release_eq]
    simp only [perform, hstores]
    cases w.stores.lookup store with
    | none => rfl
    | some data =>
      refine congrArg (Prod.mk _) ?_
      rw [release_eq w, release_eq { w with stores := _ }]
  | _ =>
    rw [release_eq w, release_eq (w.perform _).2]
    rfl

/-- Whether the claims are given up before or after makes no difference to a plan that cannot see
it. -/
theorem carryOut_release_of_blind {α : Type} {plan : Plan α} (h : plan.BlindTo held w) :
    (w.release held).carryOut plan =
      ((w.carryOut plan).1, (w.carryOut plan).2.release held) := by
  induction plan generalizing w with
  | done a => rfl
  | act a next ih =>
    rw [carryOut_act, carryOut_act, perform_release h.1]
    exact ih _ h.2

end World

end Effects
