import Mathlib.Logic.Equiv.Basic
import Mathlib.Data.List.Forall2
import Effects.Proofs.Behaviour
import Effects.Proofs.CaptureProgram

/-!
# Behaviours that match up to tokens

Two behaviours match if they do the same, step by step, apart from the tokens. The tokens that stand
for each other are kept in a `Pairing`, which grows: the second side may mint a token ahead of time,
and when the first side mints one later on, it is paired with a token that was minted ahead. So the
relation carries a pairing and the tokens that are ahead, and each rule says how they change.

`Behaviour.Matches.bind` and `Behaviour.Matches.catching` show that sequences and scopes respect the
relation, and `World.settle_matches` that matching behaviours, in matching worlds, end in the same
way.
-/

namespace Effects

/-! ## Pairings -/

/-- The tokens that stand for each other, with those of the first side on the left. -/
abbrev Pairing := List (Token × Token)

namespace Pairing

/-- Each token has one partner at most. -/
def OneToOne (pairs : Pairing) : Prop :=
  ∀ a b c d, (a, b) ∈ pairs → (c, d) ∈ pairs → (a = c ↔ b = d)

/-- The token has no partner on the right. -/
def FreeLeft (pairs : Pairing) (a : Token) : Prop := ∀ b, (a, b) ∉ pairs

/-- The token has no partner on the left. -/
def FreeRight (pairs : Pairing) (b : Token) : Prop := ∀ a, (a, b) ∉ pairs

theorem OneToOne.cons {pairs : Pairing} (hone : pairs.OneToOne) {a b : Token}
    (ha : pairs.FreeLeft a) (hb : pairs.FreeRight b) : OneToOne ((a, b) :: pairs) := by
  intro c d e f hcd hef
  rcases List.mem_cons.mp hcd with hnew | hold <;> rcases List.mem_cons.mp hef with hnew' | hold'
  · obtain ⟨rfl, rfl⟩ := Prod.mk.inj hnew
    obtain ⟨rfl, rfl⟩ := Prod.mk.inj hnew'
    exact ⟨fun _ => rfl, fun _ => rfl⟩
  · obtain ⟨rfl, rfl⟩ := Prod.mk.inj hnew
    constructor <;> rintro rfl
    · exact (ha f hold').elim
    · exact (hb e hold').elim
  · obtain ⟨rfl, rfl⟩ := Prod.mk.inj hnew'
    constructor <;> rintro rfl
    · exact (ha d hold).elim
    · exact (hb c hold).elim
  · exact hone c d e f hold hold'

theorem FreeRight.cons {pairs : Pairing} {a b c : Token} (hb : pairs.FreeRight b) (hne : b ≠ c) :
    FreeRight ((a, c) :: pairs) b := by
  intro d hd
  rcases List.mem_cons.mp hd with hd | hd
  · exact hne (Prod.mk.inj hd).2
  · exact hb d hd

/-- A pairing is part of a renaming of all tokens. -/
theorem OneToOne.exists_renaming {pairs : Pairing} (hone : pairs.OneToOne) :
    ∃ rename : Equiv.Perm Token, ∀ a b, (a, b) ∈ pairs → rename a = b := by
  induction pairs with
  | nil => exact ⟨Equiv.refl _, by simp⟩
  | cons pair pairs ih =>
    obtain ⟨a, b⟩ := pair
    obtain ⟨rename, hrename⟩ := ih fun c d e f hcd hef =>
      hone c d e f (List.mem_cons_of_mem _ hcd) (List.mem_cons_of_mem _ hef)
    refine ⟨rename.trans (Equiv.swap (rename a) b), fun c d hcd => ?_⟩
    have hcd' := hone a b c d List.mem_cons_self hcd
    rcases List.mem_cons.mp hcd with hcd | hcd
    · obtain ⟨rfl, rfl⟩ := Prod.mk.inj hcd
      exact Equiv.swap_apply_left ..
    · have hc := hrename c d hcd
      by_cases hac : a = c
      · subst hac
        obtain rfl := hcd'.mp rfl
        exact Equiv.swap_apply_left ..
      · -- the new swap moves neither `rename a` nor `b`, and `d` is neither of them
        have hda : d ≠ rename a := fun h => hac (rename.injective (h.symm.trans hc.symm))
        have hdb : d ≠ b := fun h => hac (hcd'.mpr h.symm)
        rw [Equiv.trans_apply, hc, Equiv.swap_apply_of_ne_of_ne hda hdb]

end Pairing

/-! ## Matching behaviours -/

/-- The same payload, or a program as a payload, built with commands on the left and directly on the
right. -/
inductive Payload.Related (R : Token → Token → Prop) : Payload → Payload → Prop where
  | same (payload : Payload) : Related R payload payload
  | body {n : Nat} (body : CaptureProgram (n + 1)) {env env' : Fin n → Token}
    (henv : ∀ i, R (env i) (env' i)) :
    Related R (.body [] fun token => (body.command (Fin.cases token env)).start)
      (.body [] fun token => (body.direct (Fin.cases token env')).start)

theorem Payload.Related.mono {R S : Token → Token → Prop} (hRS : ∀ a b, R a b → S a b)
    {payload payload' : Payload} (h : payload.Related R payload') : payload.Related S payload' := by
  cases h with
  | same => exact .same payload
  | body body henv => exact .body body fun i => hRS _ _ (henv i)

/-- The two behaviours do the same, apart from the tokens. The pairs are the tokens that stand for
each other, and `ahead` are tokens that the second side has minted ahead of time. -/
inductive Behaviour.Matches : Pairing → List Token → Behaviour → Behaviour → Prop where
  | value {pairs : Pairing} {ahead : List Token} (v : Value) :
    Matches pairs ahead (.value v) (.value v)
  | failure {pairs : Pairing} {ahead : List Token} (f : Failure) :
    Matches pairs ahead (.failure f) (.failure f)
  | command {pairs : Pairing} {ahead : List Token} (name : String) {payload payload' : Payload}
    {next next' : Value → Behaviour}
    (hpayload : payload.Related (fun a b => (a, b) ∈ pairs) payload')
    (hnext : ∀ v, Matches pairs ahead (next v) (next' v)) :
    Matches pairs ahead (.yielding (.tag name) payload next) (.yielding (.tag name) payload' next')
  | escape {pairs : Pairing} {ahead : List Token} {a b : Token} (hpair : (a, b) ∈ pairs)
    (v : Value) {next next' : Value → Behaviour}
    (hnext : ∀ v, Matches pairs ahead (next v) (next' v)) :
    Matches pairs ahead (.yielding (.escape a) (.value v) next)
      (.yielding (.escape b) (.value v) next')
  | act {pairs : Pairing} {ahead : List Token} {a : Act} (ha : a.Plain)
    {next next' : a.Answer → Behaviour}
    (hnext : ∀ answer, Matches pairs ahead (next answer) (next' answer)) :
    Matches pairs ahead (.act a next) (.act a next')
  | publish {pairs : Pairing} {ahead : List Token} (name : String) {a b : Token}
    (hpair : (a, b) ∈ pairs) {next next' : Unit → Behaviour}
    (hnext : Matches pairs ahead (next ()) (next' ())) :
    Matches pairs ahead (.act (.publish name a) next) (.act (.publish name b) next')
  | published {pairs : Pairing} {ahead : List Token} (name : String)
    {next next' : Option Token → Behaviour}
    (hfound : ∀ a b, (a, b) ∈ pairs → Matches pairs ahead (next (some a)) (next' (some b)))
    (habsent : Matches pairs ahead (next none) (next' none)) :
    Matches pairs ahead (.act (.published name) next) (.act (.published name) next')
  /-- The second side mints a token ahead of time. -/
  | ahead {pairs : Pairing} {ahead : List Token} {b : Behaviour} {next' : Token → Behaviour}
    (hnext : ∀ token, pairs.FreeRight token → token ∉ ahead →
      Matches pairs (token :: ahead) b (next' token)) :
    Matches pairs ahead b (.act .mint next')
  /-- The first side mints the partner of a token that was minted ahead. -/
  | paired {pairs : Pairing} {ahead : List Token} {token : Token} (htoken : token ∈ ahead)
    (hfree : pairs.FreeRight token) {next : Token → Behaviour} {b : Behaviour}
    (hnext : ∀ partner, pairs.FreeLeft partner →
      Matches ((partner, token) :: pairs) ahead (next partner) b) :
    Matches pairs ahead (.act .mint next) b

namespace Behaviour.Matches

theorem weaken {pairs : Pairing} {ahead : List Token} {b b' : Behaviour}
    (h : Matches pairs ahead b b') {more : List Token} (hmore : ahead ⊆ more) :
    Matches pairs more b b' := by
  induction h generalizing more with
  | value v => exact .value v
  | failure f => exact .failure f
  | command name hpayload _ ih => exact .command name hpayload fun v => ih v hmore
  | escape hpair v _ ih => exact .escape hpair v fun v => ih v hmore
  | act ha _ ih => exact .act ha fun answer => ih answer hmore
  | publish name hpair _ ih => exact .publish name hpair (ih hmore)
  | published name _ _ ihfound ihabsent =>
    exact .published name (fun a b hpair => ihfound a b hpair hmore) (ihabsent hmore)
  | ahead _ ih =>
    exact .ahead fun token hfree hnot =>
      ih token hfree (fun hin => hnot (hmore hin)) (List.cons_subset_cons token hmore)
  | paired htoken hfree _ ih =>
    exact .paired (hmore htoken) hfree fun partner hpartner => ih partner hpartner hmore

/-- Sequences. What comes second may have minted tokens ahead as well, while it was built; the first
part leaves those tokens alone. -/
theorem bind {pairs : Pairing} {ahead more : List Token} {b b' : Behaviour}
    (h : Matches pairs ahead b b') (hone : pairs.OneToOne)
    (hfree : ∀ token ∈ more, pairs.FreeRight token) (hapart : ∀ token ∈ more, token ∉ ahead)
    {k k' : Value → Behaviour}
    (hk : ∀ later : Pairing, pairs ⊆ later → later.OneToOne →
      (∀ token ∈ more, later.FreeRight token) → ∀ v, Matches later more (k v) (k' v)) :
    Matches pairs (ahead ++ more) (b.bind k) (b'.bind k') := by
  induction h with
  | value v =>
    exact (hk _ (fun _ h => h) hone hfree v).weaken (List.subset_append_right _ _)
  | failure f => exact .failure f
  | command name hpayload _ ih =>
    exact .command name hpayload fun v => ih v hone hfree hapart hk
  | escape hpair v _ ih => exact .escape hpair v fun v => ih v hone hfree hapart hk
  | act ha _ ih => exact .act ha fun answer => ih answer hone hfree hapart hk
  | publish name hpair _ ih => exact .publish name hpair (ih hone hfree hapart hk)
  | published name _ _ ihfound ihabsent =>
    exact .published name (fun a b hpair => ihfound a b hpair hone hfree hapart hk)
      (ihabsent hone hfree hapart hk)
  | ahead _ ih =>
    refine .ahead fun token hfresh hnot => ?_
    rw [List.mem_append, not_or] at hnot
    refine ih token hfresh hnot.1 hone hfree (fun other hother hin => ?_) hk
    rcases List.mem_cons.mp hin with rfl | hin
    · exact hnot.2 hother
    · exact hapart other hother hin
  | paired htoken htokenFree _ ih =>
    -- the new pair takes none of the tokens of the second part, which are apart from `ahead`
    refine .paired (List.mem_append_left _ htoken) htokenFree fun partner hpartner => ?_
    refine ih partner hpartner (hone.cons hpartner htokenFree) (fun other hother => ?_) hapart
      fun later hlater => hk later fun _ hpair => hlater (List.mem_cons_of_mem _ hpair)
    exact (hfree other hother).cons fun heq => hapart other hother (heq ▸ htoken)

/-- Capture scopes of tokens that stand for each other. -/
theorem catching {pairs : Pairing} {ahead : List Token} {b b' : Behaviour}
    (h : Matches pairs ahead b b') (hone : pairs.OneToOne) {s s' : Token} (hs : (s, s') ∈ pairs) :
    Matches pairs ahead (b.catching s) (b'.catching s') := by
  induction h with
  | value v => exact .value v
  | failure f => exact .failure f
  | command name hpayload _ ih =>
    simp only [Behaviour.catching, if_neg (show Kind.tag name ≠ .escape _ from Kind.noConfusion)]
    exact .command name hpayload fun v => ih v hone hs
  | @escape pairs ahead a b hpair v next next' _ ih =>
    have hsame : a = s ↔ b = s' := hone a b s s' hpair hs
    by_cases hown : a = s
    · obtain rfl := hown
      obtain rfl := hsame.mp rfl
      simp only [Behaviour.catching, if_pos, Payload.toValue]
      exact .value v
    · have hleft : Kind.escape a ≠ .escape s := fun heq => hown (Kind.escape.inj heq)
      have hright : Kind.escape b ≠ .escape s' := fun heq =>
        hown (hsame.mpr (Kind.escape.inj heq))
      simp only [Behaviour.catching, if_neg hleft, if_neg hright]
      exact .escape hpair v fun v => ih v hone hs
  | act ha _ ih => exact .act ha fun answer => ih answer hone hs
  | publish name hpair _ ih => exact .publish name hpair (ih hone hs)
  | published name _ _ ihfound ihabsent =>
    exact .published name (fun a b hpair => ihfound a b hpair hone hs) (ihabsent hone hs)
  | ahead _ ih => exact .ahead fun token hfresh hnot => ih token hfresh hnot hone hs
  | paired htoken hfree _ ih =>
    exact .paired htoken hfree fun partner hpartner =>
      ih partner hpartner (hone.cons hpartner hfree) (List.mem_cons_of_mem _ hs)

end Behaviour.Matches

/-! ## Matching worlds -/

/-- A world without the parts that matter to no behaviour: reports, claims and channels. -/
def World.bare (w : World) : World := { w with events := #[], openScopes := [], channels := #[] }

theorem World.bare_release (w : World) (claims : List Claim) :
    (w.release claims).bare = w.bare := by
  refine release_preserves bare (fun claim _ w => ?_) w
  cases claim with
  | scope token => rfl
  | receiver channel =>
    simp only [releaseOne]
    split <;> rfl

theorem Behaviour.doing_eq_act_or (a : Act) :
    (∀ next, doing a next = .act a next) ∨ (∃ claims, a = .release claims) ∨
      ∃ event, a = .report event := by
  cases a with
  | release claims => exact .inr (.inl ⟨claims, rfl⟩)
  | report event => exact .inr (.inr ⟨event, rfl⟩)
  | _ => exact .inl fun _ => rfl

/-- A run that acts first does so after reports and the giving up of claims, if any. -/
theorem World.settle_of_behaviour_act {r : Run} {a : Act} {next : a.Answer → Behaviour}
    (h : r.behaviour false = .act a next) (w : World) :
    ∃ (w₁ : World) (later : a.Answer → Run), w₁.bare = w.bare ∧
      w.settle r = (w₁.perform a).2.settle (later (w₁.perform a).1) ∧
      ∀ answer, (later answer).behaviour false = next answer := by
  induction r using Run.induct generalizing w with
  | act a' rest ih =>
    rw [Run.behaviour_act] at h
    rcases Behaviour.doing_eq_act_or a' with hdoing | ⟨claims, rfl⟩ | ⟨event, rfl⟩
    · rw [hdoing] at h
      cases h
      exact ⟨w, rest, rfl, rfl, fun _ => rfl⟩
    · obtain ⟨w₁, later, hbare, hsettle, hlater⟩ := ih () h (w.release claims)
      exact ⟨w₁, later, hbare.trans (w.bare_release claims), hsettle, hlater⟩
    · obtain ⟨w₁, later, hbare, hsettle, hlater⟩ := ih () h (w.perform (.report event)).2
      exact ⟨w₁, later, hbare, hsettle, hlater⟩
  | suspended => rw [Run.behaviour_suspended fun h => Bool.noConfusion h.1] at h; cases h
  | completed => cases h
  | failed => cases h

/-- A run that does not act ends after reports and the giving up of claims, if any. -/
theorem World.settle_of_behaviour_end {r : Run}
    (hend : ∀ a next, r.behaviour false ≠ .act a next) (w : World) :
    ∃ step w₁, w₁.bare = w.bare ∧ w.settle r = (step, w₁) ∧
      step.run.behaviour false = r.behaviour false := by
  induction r using Run.induct generalizing w with
  | act a rest ih =>
    rw [Run.behaviour_act] at hend ⊢
    rcases Behaviour.doing_eq_act_or a with hdoing | ⟨claims, rfl⟩ | ⟨event, rfl⟩
    · exact (hend a _ (hdoing _)).elim
    · obtain ⟨step, w₁, hbare, hsettle⟩ := ih () hend (w.release claims)
      exact ⟨step, w₁, hbare.trans (w.bare_release claims), hsettle⟩
    · obtain ⟨step, w₁, hbare, hsettle⟩ := ih () hend (w.perform (.report event)).2
      exact ⟨step, w₁, hbare, hsettle⟩
  | suspended kind payload rest => exact ⟨.suspended ⟨kind, payload⟩ rest, w, rfl, rfl, rfl⟩
  | completed v rest => exact ⟨.completed v rest, w, rfl, rfl, rfl⟩
  | failed f rest => exact ⟨.failed f rest, w, rfl, rfl, rfl⟩

theorem World.settle_of_behaviour_value {r : Run} {v : Value} (h : r.behaviour false = .value v)
    (w : World) : ∃ w₁ rest, w₁.bare = w.bare ∧ w.settle r = (.completed v rest, w₁) := by
  obtain ⟨step, w₁, hbare, hsettle, hstep⟩ :=
    settle_of_behaviour_end (fun a next heq => by rw [h] at heq; cases heq) w
  rw [h] at hstep
  cases step with
  | suspended command rest => cases hstep
  | completed v' rest => cases hstep; exact ⟨w₁, rest, hbare, hsettle⟩
  | failed f rest => cases hstep

theorem World.settle_of_behaviour_failure {r : Run} {f : Failure}
    (h : r.behaviour false = .failure f) (w : World) :
    ∃ w₁ rest, w₁.bare = w.bare ∧ w.settle r = (.failed f rest, w₁) := by
  obtain ⟨step, w₁, hbare, hsettle, hstep⟩ :=
    settle_of_behaviour_end (fun a next heq => by rw [h] at heq; cases heq) w
  rw [h] at hstep
  cases step with
  | suspended command rest => cases hstep
  | completed v rest => cases hstep
  | failed f' rest => cases hstep; exact ⟨w₁, rest, hbare, hsettle⟩

theorem World.settle_of_behaviour_yielding {r : Run} {kind : Kind} {payload : Payload}
    {next : Value → Behaviour} (h : r.behaviour false = .yielding kind payload next) (w : World) :
    ∃ w₁ rest, w₁.bare = w.bare ∧ w.settle r = (.suspended ⟨kind, payload⟩ rest, w₁) ∧
      ∀ v, (rest.advance v).behaviour false = next v := by
  obtain ⟨step, w₁, hbare, hsettle, hstep⟩ :=
    settle_of_behaviour_end (fun a next heq => by rw [h] at heq; cases heq) w
  rw [h] at hstep
  cases step with
  | suspended command rest =>
    obtain ⟨kind', payload'⟩ := command
    rw [Step.run, Run.behaviour_suspended fun h => Bool.noConfusion h.1] at hstep
    cases hstep
    exact ⟨w₁, rest, hbare, hsettle, fun _ => rfl⟩
  | completed v rest => cases hstep
  | failed f rest => cases hstep

/-- The two worlds are the same, apart from the tokens and from what matters to no behaviour. -/
structure World.Matches (pairs : Pairing) (ahead : List Token) (w w' : World) : Prop where
  notes : w.notes = w'.notes
  lines : w.lines = w'.lines
  offered : w.offered = w'.offered
  stores : w.stores = w'.stores
  published : List.Forall₂ (fun l r => l.1 = r.1 ∧ (l.2, r.2) ∈ pairs) w.published w'.published
  minted : ∀ a b, (a, b) ∈ pairs → a.serial < w.nextSerial ∧ b.serial < w'.nextSerial
  mintedAhead : ∀ token ∈ ahead, token.serial < w'.nextSerial

namespace World.Matches

variable {pairs : Pairing} {ahead : List Token} {w w' : World}

theorem of_bare (h : World.Matches pairs ahead w w') {w₁ w₁' : World} (hw : w₁.bare = w.bare)
    (hw' : w₁'.bare = w'.bare) : World.Matches pairs ahead w₁ w₁' := by
  obtain ⟨⟩ := w
  obtain ⟨⟩ := w'
  obtain ⟨⟩ := w₁
  obtain ⟨⟩ := w₁'
  simp only [bare, World.mk.injEq, true_and] at hw hw'
  obtain ⟨rfl, rfl, rfl, rfl, rfl, rfl⟩ := hw
  obtain ⟨rfl, rfl, rfl, rfl, rfl, rfl⟩ := hw'
  exact ⟨h.notes, h.lines, h.offered, h.stores, h.published, h.minted, h.mintedAhead⟩

/-- An act that has nothing to do with tokens is answered in the same way. -/
theorem perform (h : World.Matches pairs ahead w w') {a : Act} (ha : a.Plain) :
    (w.perform a).1 = (w'.perform a).1 ∧
      World.Matches pairs ahead (w.perform a).2 (w'.perform a).2 := by
  obtain ⟨hnotes, hlines, hoffered, hstores, hpublished, hminted, hahead⟩ := h
  cases a with
  | write sink line =>
    exact ⟨rfl, hnotes, congrArg (Array.push · (sink, line)) hlines, hoffered, hstores, hpublished,
      hminted, hahead⟩
  | note text =>
    exact ⟨rfl, congrArg (Array.push · text) hnotes, hlines, hoffered, hstores, hpublished,
      hminted, hahead⟩
  | take name =>
    refine ⟨congrArg (List.lookup name) hoffered, hnotes, hlines, ?_, hstores, hpublished, hminted,
      hahead⟩
    exact congrArg (List.filter fun offer => offer.1 ≠ name) hoffered
  | attempt store request =>
    simp only [World.perform, ← hstores]
    cases w.stores.lookup store with
    | none => exact ⟨rfl, hnotes, hlines, hoffered, hstores, hpublished, hminted, hahead⟩
    | some data => exact ⟨rfl, hnotes, hlines, hoffered, rfl, hpublished, hminted, hahead⟩
  | _ => exact ha.elim

theorem publish (h : World.Matches pairs ahead w w') (name : String) {a b : Token}
    (hpair : (a, b) ∈ pairs) :
    World.Matches pairs ahead (w.perform (.publish name a)).2 (w'.perform (.publish name b)).2 :=
  ⟨h.notes, h.lines, h.offered, h.stores, .cons ⟨rfl, hpair⟩ h.published, h.minted, h.mintedAhead⟩

/-- Under each name, tokens that stand for each other are published, or none at all. -/
theorem lookup_published (h : World.Matches pairs ahead w w') (name : String) :
    (w.published.lookup name = none ∧ w'.published.lookup name = none) ∨
      ∃ a b, (a, b) ∈ pairs ∧ w.published.lookup name = some a ∧
        w'.published.lookup name = some b := by
  have hpublished := h.published
  generalize w.published = l, w'.published = l' at hpublished
  induction hpublished with
  | nil => exact .inl ⟨rfl, rfl⟩
  | @cons l r _ _ hlr _ ih =>
    obtain ⟨other, a⟩ := l
    obtain ⟨_, b⟩ := r
    obtain ⟨rfl, hpair⟩ := hlr
    by_cases hname : name = other
    · subst hname
      exact .inr ⟨a, b, hpair, by simp, by simp⟩
    · have hne : (name == other) = false := by simpa using hname
      simp only [List.lookup_cons, hne]
      exact ih

theorem freeLeft (h : World.Matches pairs ahead w w') : pairs.FreeLeft ⟨w.nextSerial⟩ :=
  fun b hpair => Nat.lt_irrefl _ (h.minted _ b hpair).1

theorem freeRight (h : World.Matches pairs ahead w w') : pairs.FreeRight ⟨w'.nextSerial⟩ :=
  fun a hpair => Nat.lt_irrefl _ (h.minted a _ hpair).2

theorem mintAhead (h : World.Matches pairs ahead w w') :
    World.Matches pairs (⟨w'.nextSerial⟩ :: ahead) w (w'.perform .mint).2 where
  notes := h.notes
  lines := h.lines
  offered := h.offered
  stores := h.stores
  published := h.published
  minted a b hpair := ⟨(h.minted a b hpair).1, Nat.lt_succ_of_lt (h.minted a b hpair).2⟩
  mintedAhead token htoken := by
    rcases List.mem_cons.mp htoken with rfl | hold
    · exact Nat.lt_succ_self _
    · exact Nat.lt_succ_of_lt (h.mintedAhead token hold)

theorem mintPartner (h : World.Matches pairs ahead w w') {token : Token} (htoken : token ∈ ahead) :
    World.Matches ((⟨w.nextSerial⟩, token) :: pairs) ahead (w.perform .mint).2 w' where
  notes := h.notes
  lines := h.lines
  offered := h.offered
  stores := h.stores
  published := h.published.imp fun _ _ hlr => ⟨hlr.1, List.mem_cons_of_mem _ hlr.2⟩
  minted a b hpair := by
    rcases List.mem_cons.mp hpair with hnew | hold
    · obtain ⟨rfl, rfl⟩ := Prod.mk.inj hnew
      exact ⟨Nat.lt_succ_self _, h.mintedAhead _ htoken⟩
    · exact ⟨Nat.lt_succ_of_lt (h.minted a b hold).1, (h.minted a b hold).2⟩
  mintedAhead := h.mintedAhead

end World.Matches

/-! ## Matching runs -/

/-- What two advances show is the same, apart from the tokens. -/
inductive Observed.Related (R : Token → Token → Prop) : Observed → Observed → Prop where
  | command (name : String) {payload payload' : Payload} (h : payload.Related R payload') :
    Related R (.suspended ⟨.tag name, payload⟩) (.suspended ⟨.tag name, payload'⟩)
  | escape {a b : Token} (h : R a b) (v : Value) :
    Related R (.suspended ⟨.escape a, .value v⟩) (.suspended ⟨.escape b, .value v⟩)
  | completed (v : Value) : Related R (.completed v) (.completed v)
  | failed (failure : Failure) : Related R (.failed failure) (.failed failure)

theorem Observed.Related.mono {R S : Token → Token → Prop} (hRS : ∀ a b, R a b → S a b)
    {o o' : Observed} (h : o.Related R o') : o.Related S o' := by
  cases h with
  | command name h => exact .command name (h.mono hRS)
  | escape h v => exact .escape (hRS _ _ h) v
  | completed v => exact .completed v
  | failed failure => exact .failed failure

/-- What is seen up to the first end, and the end itself. -/
def Observed.upToEnd : List Observed → List Observed
  | [] => []
  | .suspended command :: later => .suspended command :: upToEnd later
  | ended :: _ => [ended]

/-- Two advances end in the same way, and so do those after them. -/
inductive Step.Matches (pairs : Pairing) (ahead : List Token) : Step → Step → Prop where
  | suspended {command command' : Command} {rest rest' : Process}
    (hshown : Observed.Related (fun a b => (a, b) ∈ pairs) (.suspended command)
      (.suspended command'))
    (hrest : ∀ v, Behaviour.Matches pairs ahead ((rest.advance v).behaviour false)
      ((rest'.advance v).behaviour false)) :
    Matches pairs ahead (.suspended command rest) (.suspended command' rest')
  | completed (v : Value) (rest rest' : Process) :
    Matches pairs ahead (.completed v rest) (.completed v rest')
  | failed (failure : Failure) (rest rest' : Process) :
    Matches pairs ahead (.failed failure rest) (.failed failure rest')

/-- Matching runs, in matching worlds, end in the same way, in worlds that match again. -/
theorem World.settle_matches {pairs : Pairing} {ahead : List Token} {b b' : Behaviour}
    (h : Behaviour.Matches pairs ahead b b') (hone : pairs.OneToOne) {r r' : Run}
    (hr : r.behaviour false = b) (hr' : r'.behaviour false = b') {w w' : World}
    (hw : World.Matches pairs ahead w w') :
    ∃ (later : Pairing) (more : List Token), pairs ⊆ later ∧ later.OneToOne ∧
      Step.Matches later more (w.settle r).1 (w'.settle r').1 ∧
      World.Matches later more (w.settle r).2 (w'.settle r').2 := by
  induction h generalizing r r' w w' with
  | @value pairs ahead v =>
    obtain ⟨w₁, rest, hbare, hsettle⟩ := settle_of_behaviour_value hr w
    obtain ⟨w₁', rest', hbare', hsettle'⟩ := settle_of_behaviour_value hr' w'
    rw [hsettle, hsettle']
    exact ⟨pairs, ahead, fun _ h => h, hone, .completed v rest rest', hw.of_bare hbare hbare'⟩
  | @failure pairs ahead f =>
    obtain ⟨w₁, rest, hbare, hsettle⟩ := settle_of_behaviour_failure hr w
    obtain ⟨w₁', rest', hbare', hsettle'⟩ := settle_of_behaviour_failure hr' w'
    rw [hsettle, hsettle']
    exact ⟨pairs, ahead, fun _ h => h, hone, .failed f rest rest', hw.of_bare hbare hbare'⟩
  | @command pairs ahead name payload payload' next next' hpayload hnext ih =>
    obtain ⟨w₁, rest, hbare, hsettle, hrest⟩ := settle_of_behaviour_yielding hr w
    obtain ⟨w₁', rest', hbare', hsettle', hrest'⟩ := settle_of_behaviour_yielding hr' w'
    rw [hsettle, hsettle']
    refine ⟨pairs, ahead, fun _ h => h, hone, .suspended (.command name hpayload) fun v => ?_,
      hw.of_bare hbare hbare'⟩
    rw [hrest, hrest']
    exact hnext v
  | @escape pairs ahead a b hpair v next next' hnext ih =>
    obtain ⟨w₁, rest, hbare, hsettle, hrest⟩ := settle_of_behaviour_yielding hr w
    obtain ⟨w₁', rest', hbare', hsettle', hrest'⟩ := settle_of_behaviour_yielding hr' w'
    rw [hsettle, hsettle']
    refine ⟨pairs, ahead, fun _ h => h, hone, .suspended (.escape hpair v) fun v => ?_,
      hw.of_bare hbare hbare'⟩
    rw [hrest, hrest']
    exact hnext v
  | @act pairs ahead a ha next next' hnext ih =>
    obtain ⟨w₁, x, hbare, hsettle, hx⟩ := settle_of_behaviour_act hr w
    obtain ⟨w₁', x', hbare', hsettle', hx'⟩ := settle_of_behaviour_act hr' w'
    obtain ⟨hanswer, hw₁⟩ := (hw.of_bare hbare hbare').perform ha
    rw [hsettle, hsettle', hanswer]
    exact ih _ hone (hx _) (hx' _) hw₁
  | @publish pairs ahead name a b hpair next next' hnext ih =>
    obtain ⟨w₁, x, hbare, hsettle, hx⟩ := settle_of_behaviour_act hr w
    obtain ⟨w₁', x', hbare', hsettle', hx'⟩ := settle_of_behaviour_act hr' w'
    rw [hsettle, hsettle']
    exact ih hone (hx ()) (hx' ()) ((hw.of_bare hbare hbare').publish name hpair)
  | @published pairs ahead name next next' hfound habsent ihfound ihabsent =>
    obtain ⟨w₁, x, hbare, hsettle, hx⟩ := settle_of_behaviour_act hr w
    obtain ⟨w₁', x', hbare', hsettle', hx'⟩ := settle_of_behaviour_act hr' w'
    have hw₁ := hw.of_bare hbare hbare'
    rw [hsettle, hsettle']
    simp only [perform]
    rcases hw₁.lookup_published name with ⟨hnone, hnone'⟩ | ⟨a, b, hpair, hsome, hsome'⟩
    · rw [hnone, hnone']
      exact ihabsent hone (hx none) (hx' none) hw₁
    · rw [hsome, hsome']
      exact ihfound a b hpair hone (hx (some a)) (hx' (some b)) hw₁
  | @ahead pairs ahead b next' hnext ih =>
    -- only the second world moves, and its new token waits for a partner
    obtain ⟨w₁', x', hbare', hsettle', hx'⟩ := settle_of_behaviour_act hr' w'
    have hw₁ := hw.of_bare rfl hbare'
    have hnot : (⟨w₁'.nextSerial⟩ : Token) ∉ ahead :=
      fun hin => Nat.lt_irrefl _ (hw₁.mintedAhead _ hin)
    rw [hsettle']
    exact ih _ hw₁.freeRight hnot hone hr (hx' _) hw₁.mintAhead
  | @paired pairs ahead token htoken hfree next b hnext ih =>
    -- only the first world moves, and its new token becomes the partner
    obtain ⟨w₁, x, hbare, hsettle, hx⟩ := settle_of_behaviour_act hr w
    have hw₁ := hw.of_bare hbare rfl
    rw [hsettle]
    obtain ⟨later, more, hlater, hresult⟩ :=
      ih _ hw₁.freeLeft (hone.cons hw₁.freeLeft hfree) (hx _) hr' (hw₁.mintPartner htoken)
    exact ⟨later, more, fun _ hpair => hlater (List.mem_cons_of_mem _ hpair), hresult⟩

/-- Whoever goes on after matching advances sees the same on both sides up to the first end, apart
from the tokens. -/
theorem World.observe_matches {pairs : Pairing} {ahead : List Token} (hone : pairs.OneToOne)
    {r r' : Run} (h : Behaviour.Matches pairs ahead (r.behaviour false) (r'.behaviour false))
    {w w' : World} (hw : World.Matches pairs ahead w w') (inputs : List Value) :
    ∃ later : Pairing, pairs ⊆ later ∧ later.OneToOne ∧
      List.Forall₂ (Observed.Related fun a b => (a, b) ∈ later)
        (Observed.upToEnd ((w.settle r).1.observed ::
          (w.settle r).2.observe (w.settle r).1.rest inputs))
        (Observed.upToEnd ((w'.settle r').1.observed ::
          (w'.settle r').2.observe (w'.settle r').1.rest inputs)) := by
  induction inputs generalizing pairs ahead r r' w w' with
  | nil =>
    obtain ⟨later, more, hlater, hone', hstep, -⟩ := settle_matches h hone rfl rfl hw
    refine ⟨later, hlater, hone', ?_⟩
    generalize (w.settle r).1 = step, (w'.settle r').1 = step' at hstep
    cases hstep with
    | suspended hshown hrest => exact .cons hshown .nil
    | completed v rest rest' => exact .cons (.completed v) .nil
    | failed f rest rest' => exact .cons (.failed f) .nil
  | cons v inputs ih =>
    obtain ⟨later, more, hlater, hone', hstep, hworld⟩ := settle_matches h hone rfl rfl hw
    generalize (w.settle r).1 = step, (w'.settle r').1 = step' at hstep
    cases hstep with
    | suspended hshown hrest =>
      obtain ⟨last, hlast, hone'', hseen⟩ := ih hone' (hrest v) hworld
      refine ⟨last, fun _ hpair => hlast (hlater hpair), hone'', .cons ?_ hseen⟩
      exact hshown.mono fun a b hpair => hlast hpair
    | completed v rest rest' => exact ⟨later, hlater, hone', .cons (.completed v) .nil⟩
    | failed f rest rest' => exact ⟨later, hlater, hone', .cons (.failed f) .nil⟩

end Effects
