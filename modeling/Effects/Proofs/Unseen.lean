import Effects.Proofs.Blindness
import Effects.Proofs.Ownership

/-!
# What a continuation sees of the first part

In a sequence, the second part is built while the first part is still there, with the scopes that it
owns. Laws that move the boundary between two parts also move the point at which the first part is
dropped, from before the second part is built to after it. So they hold for continuations that
cannot see the difference: `Process.UnseenBy`.

A continuation that does nothing but build a process sees nothing, and neither does one that never
asks about scopes. A continuation may also make new scopes, as long as it never asks whether a scope
is open, if the first part is tidy and its own scopes have been made by then: then no claim of the
first part is a claim on a new scope.
-/

namespace Effects

/-! ## Where a process completes -/

mutual

/-- Whenever the process is advanced and answered from the world on, then if it completes, the
value, what remains, and the world by then satisfy `P`. In between the world may have changed in any
way, but serials are not used again. -/
def Process.AtEnd (P : Value → Process → World → Prop) : Process → World → Prop
  | .spent _, _ => True
  | .paused _ resume, w =>
    ∀ v later, w.nextSerial ≤ later.nextSerial → (resume v).AtEnd P later

/-- If the run completes, then as `P` says. -/
def Run.AtEnd (P : Value → Process → World → Prop) : Run → World → Prop
  | .act a next, w => (next (w.perform a).1).AtEnd P (w.perform a).2
  | .suspended _ _ rest, w => rest.AtEnd P w
  | .completed v rest, w => P v rest w
  | .failed _ _, _ => True

end

variable {P Q : Value → Process → World → Prop}

theorem Process.AtEnd.advance {p : Process} {w later : World} (h : p.AtEnd P w)
    (hlater : w.nextSerial ≤ later.nextSerial) (v : Value) : (p.advance v).AtEnd P later := by
  cases p with
  | spent held => trivial
  | paused held resume => exact h v later hlater

theorem Process.atEnd_of_advance {p : Process} {w : World}
    (h : ∀ v later, w.nextSerial ≤ later.nextSerial → (p.advance v).AtEnd P later) :
    p.AtEnd P w := by
  cases p with
  | spent held => trivial
  | paused held resume => exact h

theorem Run.AtEnd.mono (himp : ∀ v rest w, P v rest w → Q v rest w) {r : Run} {w : World}
    (h : r.AtEnd P w) : r.AtEnd Q w := by
  induction r using Run.induct generalizing w with
  | act a next ih => exact ih _ h
  | suspended kind payload rest ih =>
    exact Process.atEnd_of_advance fun v later hlater => ih v (Process.AtEnd.advance h hlater v)
  | completed v rest => exact himp v rest w h
  | failed failure rest => trivial

/-- Serials are not used again on the way to the end. -/
theorem Run.AtEnd.and_later {r : Run} {w : World} (h : r.AtEnd P w) :
    r.AtEnd (fun v rest later => P v rest later ∧ w.nextSerial ≤ later.nextSerial) w := by
  suffices hfrom : ∀ {before : World}, before.nextSerial ≤ w.nextSerial →
      r.AtEnd (fun v rest later => P v rest later ∧ before.nextSerial ≤ later.nextSerial) w from
    hfrom (Nat.le_refl _)
  intro before hbefore
  induction r using Run.induct generalizing w with
  | act a next ih => exact ih _ h (hbefore.trans (w.nextSerial_le_perform a))
  | suspended kind payload rest ih =>
    exact Process.atEnd_of_advance fun v later hlater =>
      ih v (Process.AtEnd.advance h hlater v) (hbefore.trans hlater)
  | completed v rest => exact ⟨h, hbefore⟩
  | failed failure rest => trivial

theorem Process.AtEnd.mono (himp : ∀ v rest w, P v rest w → Q v rest w) {p : Process} {w : World}
    (h : p.AtEnd P w) : p.AtEnd Q w :=
  Process.atEnd_of_advance fun v _ hlater => (h.advance hlater v).mono himp

theorem Run.atEnd_of_forall (hall : ∀ v rest w, P v rest w) (r : Run) (w : World) :
    r.AtEnd P w := by
  induction r using Run.induct generalizing w with
  | act a next ih => exact ih _ _
  | suspended kind payload rest ih => exact Process.atEnd_of_advance fun v later _ => ih v later
  | completed v rest => exact hall v rest w
  | failed failure rest => trivial

theorem Process.atEnd_of_forall (hall : ∀ v rest w, P v rest w) (p : Process) (w : World) :
    p.AtEnd P w :=
  Process.atEnd_of_advance fun v later _ => Run.atEnd_of_forall hall (p.advance v) later

/-! ## Continuations that cannot see the first part -/

/-- Wherever the process completes, from the world on, the continuation cannot tell whether what
remains of the process has been dropped. -/
def Process.UnseenBy (k : Value → Plan Process) (p : Process) (w : World) : Prop :=
  p.AtEnd (fun v rest later => (k v).BlindTo rest.held later) w

/-- What the plan builds in the world cannot be seen by the continuation. -/
def Plan.UnseenBy (k : Value → Plan Process) (plan : Plan Process) (w : World) : Prop :=
  (w.carryOut plan).1.UnseenBy k (w.carryOut plan).2

/-- A continuation that never asks about scopes cannot see what comes before it, whatever that is.
-/
theorem Process.unseenBy_of_blind {k : Value → Plan Process} (hk : ∀ v, (k v).Blind) (p : Process)
    (w : World) : p.UnseenBy k w :=
  Process.atEnd_of_forall (fun v rest w => (hk v).blindTo rest.held w) p w

theorem Plan.unseenBy_of_blind {k : Value → Plan Process} (hk : ∀ v, (k v).Blind)
    (plan : Plan Process) (w : World) : plan.UnseenBy k w :=
  Process.unseenBy_of_blind hk _ _

/-! ## Continuations that make scopes -/

/-- The plan never asks whether a scope is open. -/
def Plan.Discreet {α : Type} : Plan α → Prop
  | .done _ => True
  | .act a next => (∀ token, a ≠ .isOpen token) ∧ ∀ answer, (next answer).Discreet

/-- All the tokens have been minted by now. -/
def World.Minted (w : World) (owned : Multiset Token) : Prop :=
  ∀ token ∈ owned, token.serial < w.nextSerial

theorem World.minted_zero (w : World) : w.Minted 0 :=
  fun token htoken => (Multiset.notMem_zero token htoken).elim

theorem World.Minted.later {w later : World} {owned : Multiset Token} (h : w.Minted owned)
    (hlater : w.nextSerial ≤ later.nextSerial) : later.Minted owned :=
  fun token htoken => (h token htoken).trans_le hlater

/-- A new scope is none of those that have been claimed before. -/
theorem Plan.Discreet.blindTo {α : Type} {plan : Plan α} (h : plan.Discreet) {held : List Claim}
    {w : World} (hminted : w.Minted (tokens held)) : plan.BlindTo held w := by
  induction plan generalizing w with
  | done a => trivial
  | act a next ih =>
    obtain ⟨hasks, hnext⟩ := h
    refine ⟨?_, ih _ (hnext _) (hminted.later (w.nextSerial_le_perform a))⟩
    cases a with
    | isOpen token => exact (hasks token rfl).elim
    | mint => exact fun hmem => (hminted _ (mem_tokens.mpr hmem)).false
    | _ => trivial

theorem World.Minted.perform {w : World} {owned : Multiset Token} (h : w.Minted owned) (a : Act) :
    (w.perform a).2.Minted (a.leaves (w.perform a).1 owned) := by
  have hlater := h.later (w.nextSerial_le_perform a)
  cases a with
  | mint =>
    intro token htoken
    rcases Multiset.mem_cons.mp htoken with rfl | hold
    · exact Nat.lt_succ_self w.nextSerial
    · exact hlater token hold
  | release claims =>
    exact fun token htoken => hlater token (Multiset.mem_of_le (Multiset.sub_le_self _ _) htoken)
  | _ => exact hlater

/-- What a tidy run has left at its end has been minted, if all that it has owned has been. -/
theorem Run.Tidy.atEnd {r : Run} {owned : Multiset Token} (h : r.Tidy owned) {w : World}
    (hminted : w.Minted owned) :
    r.AtEnd (fun _ rest later => later.Minted (tokens rest.held)) w := by
  induction r using Run.induct generalizing owned w with
  | act a next ih => exact ih _ (h.2 _) (hminted.perform a)
  | suspended kind payload rest ih =>
    obtain ⟨rfl, -, hrest⟩ := h
    refine Process.atEnd_of_advance fun v later hlater => ih v (hrest.advance v) fun token htoken =>
      hminted.later hlater token (Multiset.mem_add.mpr (.inr htoken))
  | completed v rest =>
    obtain ⟨rfl, -⟩ := h
    exact hminted
  | failed failure rest => trivial

/-- A tidy process whose own scopes have been made cannot be seen by a continuation that never asks
whether a scope is open. -/
theorem Process.Tidy.unseenBy {p : Process} (hp : p.Tidy) {w : World}
    (hminted : w.Minted (tokens p.held)) {k : Value → Plan Process} (hk : ∀ v, (k v).Discreet) :
    p.UnseenBy k w :=
  Process.atEnd_of_advance fun v _ hlater =>
    ((hp.advance v).atEnd (hminted.later hlater)).mono fun v _ _ h => (hk v).blindTo h

end Effects
