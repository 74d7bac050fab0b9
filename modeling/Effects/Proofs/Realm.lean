import Mathlib.Data.Set.Insert
import Effects.Proofs.Interleaving
import Effects.Proofs.Lifecycle
import Effects.Proofs.Loggers

/-!
# Realms

Computations can meet in the world: in the data of a store, under a name, at a scope or at a
deferred operation. These are the resources. To notes, lines and reports code can only add, and it
cannot read them, so they are none. A realm is a set of resources, and code that `StaysIn` its realm
touches nothing else. What it mints, or finds in its realm, belongs to the realm from then on.

An act can be told from the contents of what it touches: in worlds that agree about the realm it has
the same answer, and they still agree about the realm afterwards. About everything that is not
touched nothing changes.
-/

namespace Effects

/-- Something where computations can meet. -/
inductive Resource where
  /-- The data of a store. -/
  | store (name : String)
  /-- What is published and what is offered under a name. -/
  | name (name : String)
  /-- A scope, or the receiving half of a deferred operation. -/
  | claim (claim : Claim)
deriving DecidableEq

/-- Resources that belong together. -/
abbrev Realm := Set Resource

/-- The resources that are claimed. -/
def claimed (claims : List Claim) : Realm := {r | ∃ claim ∈ claims, r = .claim claim}

/-- The resources that an act depends on or changes. -/
def Act.touches : Act → Realm
  | .release claims => claimed claims
  | .isOpen token => {.claim (.scope token)}
  | .publish name token => {.name name, .claim (.scope token)}
  | .published name => {.name name}
  | .take name => {.name name}
  | .attempt store _ => {.store store}
  | _ => ∅

/-- The resources that code has got to know by the answer of an act. -/
def Act.gains : (a : Act) → a.Answer → Realm
  | .mint, token => {.claim (.scope token)}
  | .published _, token? => {r | ∃ token, token? = some token ∧ r = .claim (.scope token)}
  | .take _, channel? => {r | ∃ channel, channel? = some channel ∧ r = .claim (.receiver channel)}
  | _, _ => ∅

/-- Whatever its acts answer, the operation touches nothing outside the realm, save what it has got
to know on its way. -/
def Operation.StaysIn : Operation → Realm → Prop
  | .settled _, _ => True
  | .act a next, realm =>
    a.touches ⊆ realm ∧ ∀ answer, (next answer).StaysIn (realm ∪ a.gains answer)
  | .sleep _ _ next, realm => next.StaysIn realm
  | .receive channel _ next, realm =>
    .claim (.receiver channel) ∈ realm ∧ ∀ outcome, (next outcome).StaysIn realm

/-! ## Contents -/

/-- What the world has to say about a resource. -/
inductive Content where
  /-- The data of a store. -/
  | data (store? : Option Store)
  /-- What is published and what is offered under a name. -/
  | known (token? : Option Token) (channel? : Option Channel)
  /-- How often a scope is open. -/
  | opened (count : Nat)
  /-- How far a deferred operation has come. -/
  | deferred (state : ChannelState)

/-- What is left of a claim that has been given up. -/
def Content.givenUp : Content → Content
  | opened count => .opened (count - 1)
  | deferred state => .deferred state.givenUp
  | content => content

namespace World

/-- The content of a resource. -/
def content (w : World) : Resource → Content
  | .store name => .data (w.stores.lookup name)
  | .name name => .known (w.published.lookup name) (w.offered.lookup name)
  | .claim (.scope token) => .opened (w.openScopes.count token)
  | .claim (.receiver channel) => .deferred (w.channelState channel)

/-- The world with another number for the next token. -/
def withSerial (w : World) (serial : Nat) : World := { w with nextSerial := serial }

theorem content_withSerial (w : World) (serial : Nat) (r : Resource) :
    (w.withSerial serial).content r = w.content r := by
  cases r with
  | claim claim => cases claim <;> rfl
  | store name | name name => rfl

theorem content_releaseOne (w : World) (claim : Claim) (r : Resource) :
    (w.releaseOne claim).content r =
      if r = .claim claim then (w.content r).givenUp else w.content r := by
  obtain ⟨hstores, hpublished, hoffered⟩ : (w.releaseOne claim).stores = w.stores ∧
      (w.releaseOne claim).published = w.published ∧
      (w.releaseOne claim).offered = w.offered := by
    cases claim with
    | scope token => exact ⟨rfl, rfl, rfl⟩
    | receiver channel =>
      simp only [releaseOne]
      split <;> exact ⟨rfl, rfl, rfl⟩
  cases r with
  | store name => simp [content, hstores]
  | name name => simp [content, hpublished, hoffered]
  | claim asked =>
    cases asked with
    | receiver channel =>
      simp only [content, channelState_releaseOne, Resource.claim.injEq, eq_comm (a := claim)]
      split <;> rfl
    | scope token =>
      cases claim with
      | receiver channel =>
        have hopen : (w.releaseOne (.receiver channel)).openScopes = w.openScopes := by
          simp only [releaseOne]
          split <;> rfl
        simp [content, hopen]
      | scope given =>
        by_cases heq : token = given
        · simp [content, releaseOne, Content.givenUp, heq]
        · simp [content, releaseOne, heq, List.count_erase_of_ne heq]

theorem content_release_of_not_mem (w : World) {claims : List Claim} {r : Resource}
    (h : ∀ claim ∈ claims, r ≠ .claim claim) : (w.release claims).content r = w.content r := by
  refine release_preserves (·.content r) (fun claim hclaim w => ?_) w
  rw [content_releaseOne, if_neg (h claim hclaim)]

theorem content_release_congr {w w' : World} {r : Resource} (h : w.content r = w'.content r)
    (claims : List Claim) : (w.release claims).content r = (w'.release claims).content r := by
  induction claims generalizing w w' with
  | nil => exact h
  | cons claim claims ih =>
    have hone : (w.releaseOne claim).content r = (w'.releaseOne claim).content r := by
      rw [content_releaseOne, content_releaseOne, h]
    exact ih hone

theorem lookup_rebind_of_ne (bindings : List (String × Store)) {name other : String}
    (h : other ≠ name) (data : Store) :
    (rebind bindings name data).lookup other = bindings.lookup other := by
  induction bindings with
  | nil => rfl
  | cons binding bindings ih =>
    obtain ⟨key, value⟩ := binding
    by_cases hkey : key = name
    · simpa [rebind, hkey, List.lookup_cons, beq_false_of_ne h] using ih
    · by_cases hother : other = key
      · simp [rebind, hkey, hother]
      · simpa [rebind, hkey, List.lookup_cons, beq_false_of_ne hother] using ih

theorem lookup_filter_ne {α : Type} (bindings : List (String × α)) (name other : String) :
    (bindings.filter fun binding => binding.1 ≠ name).lookup other =
      if other = name then none else bindings.lookup other := by
  induction bindings with
  | nil => simp
  | cons binding bindings ih =>
    obtain ⟨key, value⟩ := binding
    rw [List.filter_cons, List.lookup_cons]
    by_cases hkey : key = name
    · by_cases hother : other = name
      · simp only [hkey, hother, if_true] at ih ⊢
        simpa using ih
      · simpa [hkey, hother, beq_false_of_ne hother] using ih
    · by_cases hother : other = key
      · simp [hkey, hother]
      · simpa [hkey, List.lookup_cons, beq_false_of_ne hother] using ih

/-- Nothing changes about what an act does not touch, save for the scope that it makes. -/
theorem content_perform_of_untouched (w : World) {a : Act} {r : Resource} (h : r ∉ a.touches)
    (hgains : r ∉ a.gains (w.perform a).1) : (w.perform a).2.content r = w.content r := by
  cases a with
  | mint =>
    cases r with
    | claim claim =>
      cases claim with
      | scope token =>
        have hne : (⟨w.nextSerial⟩ : Token) ≠ token := fun heq => hgains (heq ▸ rfl)
        simp [perform, content, hne]
      | receiver channel => rfl
    | _ => rfl
  | release claims =>
    exact w.content_release_of_not_mem fun claim hclaim heq => h ⟨claim, hclaim, heq⟩
  | publish name token =>
    cases r with
    | name asked =>
      have hne : asked ≠ name := fun heq => h (heq ▸ .inl rfl)
      simp [perform, content, List.lookup_cons, beq_false_of_ne hne]
    | claim claim => cases claim <;> rfl
    | store name => rfl
  | take name =>
    cases r with
    | name asked =>
      have hne : asked ≠ name := fun heq => h (heq ▸ rfl)
      simp only [perform, content, lookup_filter_ne, if_neg hne]
    | claim claim => cases claim <;> rfl
    | store name => rfl
  | attempt store request =>
    simp only [perform]
    cases hstore : w.stores.lookup store with
    | none => rfl
    | some data =>
      cases r with
      | store asked =>
        have hne : asked ≠ store := fun heq => h (heq ▸ rfl)
        simp only [content, lookup_rebind_of_ne _ hne]
      | claim claim => cases claim <;> rfl
      | name name => rfl
  | _ =>
    cases r with
    | claim claim => cases claim <;> rfl
    | _ => rfl

/-- What becomes of a resource depends on nothing but its content. -/
theorem content_perform_congr {w w' : World} (hserial : w.nextSerial = w'.nextSerial)
    {r : Resource} (h : w.content r = w'.content r) (a : Act) :
    (w.perform a).2.content r = (w'.perform a).2.content r := by
  cases a with
  | mint =>
    cases r with
    | claim claim =>
      cases claim with
      | scope token => simpa [perform, content, List.count_cons, hserial] using h
      | receiver channel => exact h
    | _ => exact h
  | release claims => exact content_release_congr h claims
  | publish name token =>
    cases r with
    | name asked =>
      obtain ⟨hpublished, hoffered⟩ := Content.known.inj h
      simp only [perform, content, List.lookup_cons, hpublished, hoffered]
    | claim claim => cases claim <;> exact h
    | store name => exact h
  | take name =>
    cases r with
    | name asked =>
      obtain ⟨hpublished, hoffered⟩ := Content.known.inj h
      simp only [perform, content, lookup_filter_ne, hpublished, hoffered]
    | claim claim => cases claim <;> exact h
    | store name => exact h
  | attempt store request =>
    by_cases hstore : r = .store store
    · subst hstore
      have hlookup : w.stores.lookup store = w'.stores.lookup store := Content.data.inj h
      cases hdata : w.stores.lookup store with
      | none => simp only [perform, hdata, hlookup.symm.trans hdata, h]
      | some data =>
        rw [perform_attempt hdata, perform_attempt (hlookup.symm.trans hdata)]
        simp only [content, lookup_rebind hdata, lookup_rebind (hlookup.symm.trans hdata)]
    · rw [w.content_perform_of_untouched hstore id, h, w'.content_perform_of_untouched hstore id]
  | _ =>
    cases r with
    | claim claim => cases claim <;> exact h
    | _ => exact h

/-- What an act answers depends on nothing but the contents of what it touches. -/
theorem answer_congr {w w' : World} (hserial : w.nextSerial = w'.nextSerial) {a : Act}
    (h : ∀ r ∈ a.touches, w.content r = w'.content r) : (w.perform a).1 = (w'.perform a).1 := by
  cases a with
  | mint => exact congrArg Token.mk hserial
  | isOpen token =>
    have hcount : w.openScopes.count token = w'.openScopes.count token :=
      Content.opened.inj (h (.claim (.scope token)) rfl)
    show w.openScopes.contains token = w'.openScopes.contains token
    rw [Bool.eq_iff_iff, List.contains_iff_mem, List.contains_iff_mem, ← List.count_pos_iff,
      ← List.count_pos_iff, hcount]
  | published name => exact (Content.known.inj (h (.name name) rfl)).1
  | take name => exact (Content.known.inj (h (.name name) rfl)).2
  | attempt store request =>
    have hlookup : w.stores.lookup store = w'.stores.lookup store :=
      Content.data.inj (h (.store store) rfl)
    simp only [perform, hlookup]
    cases w'.stores.lookup store <;> rfl
  | _ => rfl

end World

theorem World.openScopes_release_subset (w : World) (claims : List Claim) :
    (w.release claims).openScopes ⊆ w.openScopes := by
  intro token htoken
  have hle : ((w.release claims).openScopes : Multiset Token) ≤ w.openScopes :=
    (World.coe_openScopes_release w claims).trans_le (Multiset.sub_le_self _ _)
  exact Multiset.mem_of_le hle htoken

theorem Act.name_not_mem_gains (a : Act) (answer : a.Answer) (name : String) :
    .name name ∉ a.gains answer := by
  cases a <;> simp [gains]

/-! ## Realms in a world -/

/-- Only scopes that have been made are open. -/
def World.Numbered (w : World) : Prop := ∀ token ∈ w.openScopes, token.serial < w.nextSerial

theorem World.Numbered.perform {w : World} (h : w.Numbered) (a : Act) :
    (w.perform a).2.Numbered := by
  intro token htoken
  rw [World.nextSerial_perform]
  cases a with
  | mint =>
    rcases List.mem_cons.mp htoken with rfl | hmem
    · exact Nat.lt_succ_self _
    · exact Nat.lt_succ_of_lt (h token hmem)
  | release claims => exact h token (w.openScopes_release_subset claims htoken)
  | attempt store request =>
    simp only [World.perform] at htoken
    cases hdata : w.stores.lookup store <;> rw [hdata] at htoken <;> exact h token htoken
  | _ => exact h token htoken

/-- A scope that is yet to be made is not open. -/
theorem World.Numbered.content_fresh {w : World} (h : w.Numbered) {token : Token}
    (htoken : w.nextSerial ≤ token.serial) : w.content (.claim (.scope token)) = .opened 0 := by
  have hnot : token ∉ w.openScopes := fun hmem => Nat.not_lt.mpr htoken (h token hmem)
  rw [content, List.count_eq_zero_of_not_mem hnot]

/-- The scopes of the realm have been made in the world, and what is known under the names of the
realm belongs to the realm. -/
structure World.Hosts (w : World) (realm : Realm) : Prop where
  minted : ∀ token, .claim (.scope token) ∈ realm → token.serial < w.nextSerial
  published : ∀ name token, .name name ∈ realm → w.published.lookup name = some token →
    .claim (.scope token) ∈ realm
  offered : ∀ name channel, .name name ∈ realm → w.offered.lookup name = some channel →
    .claim (.receiver channel) ∈ realm

namespace World.Hosts

variable {w : World} {realm : Realm} {a : Act}

/-- What is found in the realm belongs to it already. -/
theorem of_gains (h : w.Hosts realm) (ha : a.touches ⊆ realm) {r : Resource}
    (hr : r ∈ a.gains (w.perform a).1) :
    r ∈ realm ∨ a = .mint ∧ r = .claim (.scope ⟨w.nextSerial⟩) := by
  cases a with
  | mint => exact .inr ⟨rfl, hr⟩
  | published name =>
    obtain ⟨token, htoken, rfl⟩ := hr
    exact .inl (h.published name token (ha rfl) htoken)
  | take name =>
    obtain ⟨channel, hchannel, rfl⟩ := hr
    exact .inl (h.offered name channel (ha rfl) hchannel)
  | _ => exact hr.elim

theorem perform (h : w.Hosts realm) (ha : a.touches ⊆ realm) :
    (w.perform a).2.Hosts (realm ∪ a.gains (w.perform a).1) where
  minted token htoken := by
    rw [World.nextSerial_perform]
    rcases htoken with hold | hnew
    · exact Nat.lt_add_right _ (h.minted token hold)
    · rcases h.of_gains ha hnew with hold | ⟨rfl, heq⟩
      · exact Nat.lt_add_right _ (h.minted token hold)
      · obtain rfl : token = ⟨w.nextSerial⟩ := by simpa using heq
        exact Nat.lt_succ_self _
  published name token hname htoken := by
    have hold : .name name ∈ realm := hname.resolve_right (a.name_not_mem_gains _ name)
    by_cases htouches : .name name ∈ a.touches
    · cases a with
      | publish asked given =>
        obtain rfl : name = asked := by simpa [Act.touches] using htouches
        obtain rfl : given = token := by simpa [World.perform] using htoken
        exact .inl (ha (.inr rfl))
      | published asked | take asked => exact .inl (h.published name token hold htoken)
      | _ => simp [Act.touches, claimed] at htouches
    · have hsame := w.content_perform_of_untouched htouches (a.name_not_mem_gains _ name)
      exact .inl (h.published name token hold ((Content.known.inj hsame).1 ▸ htoken))
  offered name channel hname hchannel := by
    have hold : .name name ∈ realm := hname.resolve_right (a.name_not_mem_gains _ name)
    by_cases htouches : .name name ∈ a.touches
    · cases a with
      | take asked =>
        obtain rfl : name = asked := by simpa [Act.touches] using htouches
        cases ((lookup_filter_ne w.offered name name).trans (if_pos rfl)).symm.trans hchannel
      | published asked | publish asked given =>
        exact .inl (h.offered name channel hold hchannel)
      | _ => simp [Act.touches, claimed] at htouches
    · have hsame := w.content_perform_of_untouched htouches (a.name_not_mem_gains _ name)
      exact .inl (h.offered name channel hold ((Content.known.inj hsame).2 ▸ hchannel))

end World.Hosts

/-- The worlds say the same about the realm. -/
def World.Agree (realm : Realm) (w w' : World) : Prop := ∀ r ∈ realm, w.content r = w'.content r

namespace World.Agree

variable {w w' : World} {realm : Realm} {a : Act}

theorem answer_eq (h : Agree realm w w') (hserial : w.nextSerial = w'.nextSerial)
    (ha : a.touches ⊆ realm) : (w.perform a).1 = (w'.perform a).1 :=
  answer_congr hserial fun r hr => h r (ha hr)

theorem perform (h : Agree realm w w') (hserial : w.nextSerial = w'.nextSerial)
    (hhosts : w.Hosts realm) (hw : w.Numbered) (hw' : w'.Numbered) (ha : a.touches ⊆ realm) :
    Agree (realm ∪ a.gains (w.perform a).1) (w.perform a).2 (w'.perform a).2 := by
  have hknown {r : Resource} (hr : w.content r = w'.content r) :
      (w.perform a).2.content r = (w'.perform a).2.content r :=
    content_perform_congr hserial hr a
  rintro r (hr | hr)
  · exact hknown (h r hr)
  · rcases hhosts.of_gains ha hr with hold | ⟨-, rfl⟩
    · exact hknown (h r hold)
    · exact hknown ((hw.content_fresh (Nat.le_refl _)).trans
        (hw'.content_fresh hserial.symm.le).symm)

end World.Agree

/-! ## Turns -/

namespace Operation

/-- The operation performs its next act, or goes on after a pause, or with an outcome that has been
sent. -/
def turn (w : World) : Operation → Operation × World
  | .settled outcome => (.settled outcome, w)
  | .act a next => (next (w.perform a).1, (w.perform a).2)
  | .sleep _ _ next => (next, w)
  | .receive channel held next =>
    match w.channelState channel with
    | .sent outcome => (next outcome, w)
    | _ => (.receive channel held next, w)

/-- What the operation gets to know in its next turn. -/
def gains (w : World) : Operation → Realm
  | .act a _ => a.gains (w.perform a).1
  | _ => ∅

/-- The number of tokens that the operation mints in its next turn. -/
def mints : Operation → Nat
  | .act a _ => a.mints
  | _ => 0

/-- The lines that the operation writes in its next turn. -/
def linesTo (sink : String) : Operation → List String
  | .act a _ => a.linesTo sink
  | _ => []

theorem turn_receive_eq (w : World) (channel : Channel) (held : List Claim)
    (next : Outcome → Operation) : ((receive channel held next).turn w).2 = w := by
  rw [turn]
  split <;> rfl

theorem nextSerial_turn (w : World) (op : Operation) :
    (op.turn w).2.nextSerial = w.nextSerial + op.mints := by
  cases op with
  | act a next => exact w.nextSerial_perform a
  | receive channel held next => rw [turn_receive_eq]; rfl
  | settled | sleep => rfl

theorem linesOf_turn (w : World) (op : Operation) (sink : String) :
    (op.turn w).2.linesOf sink = w.linesOf sink ++ op.linesTo sink := by
  cases op with
  | act a next => exact w.linesOf_perform a sink
  | receive channel held next => rw [turn_receive_eq]; exact (List.append_nil _).symm
  | settled | sleep => exact (List.append_nil _).symm

theorem numbered_turn {w : World} (h : w.Numbered) (op : Operation) : (op.turn w).2.Numbered := by
  cases op with
  | act a next => exact h.perform a
  | receive channel held next => rwa [turn_receive_eq]
  | settled | sleep => exact h

namespace StaysIn

variable {op : Operation} {realm : Realm} {w w' : World}

theorem turn (h : op.StaysIn realm) (w : World) : (op.turn w).1.StaysIn (realm ∪ op.gains w) := by
  cases op with
  | settled outcome => trivial
  | act a next => exact h.2 _
  | sleep ms held next => exact (Set.union_empty realm).symm ▸ h
  | receive channel held next =>
    show ((receive channel held next).turn w).1.StaysIn (realm ∪ ∅)
    rw [Set.union_empty, Operation.turn]
    split
    · exact h.2 _
    · exact h

/-- Nothing changes outside the realm. -/
theorem content_turn (h : op.StaysIn realm) {r : Resource} (hr : r ∉ realm ∪ op.gains w) :
    (op.turn w).2.content r = w.content r := by
  cases op with
  | act a next =>
    exact w.content_perform_of_untouched (fun hin => hr (.inl (h.1 hin))) fun hin => hr (.inr hin)
  | receive channel held next => rw [turn_receive_eq]
  | settled | sleep => rfl

theorem hosts_turn (h : op.StaysIn realm) (hhosts : w.Hosts realm) :
    (op.turn w).2.Hosts (realm ∪ op.gains w) := by
  cases op with
  | act a next => exact hhosts.perform h.1
  | receive channel held next =>
    rw [turn_receive_eq]
    exact (Set.union_empty realm).symm ▸ hhosts
  | settled | sleep => exact (Set.union_empty realm).symm ▸ hhosts

/-- In worlds that agree about the realm the operation does the same. -/
theorem turn_eq (h : op.StaysIn realm) (hagree : World.Agree realm w w')
    (hserial : w.nextSerial = w'.nextSerial) : (op.turn w).1 = (op.turn w').1 := by
  cases op with
  | act a next => exact congrArg next (hagree.answer_eq hserial h.1)
  | receive channel held next =>
    have hstate : w.channelState channel = w'.channelState channel :=
      Content.deferred.inj (hagree _ h.1)
    simp only [Operation.turn, hstate]
    split <;> rfl
  | settled | sleep => rfl

theorem gains_eq (h : op.StaysIn realm) (hagree : World.Agree realm w w')
    (hserial : w.nextSerial = w'.nextSerial) : op.gains w = op.gains w' := by
  cases op with
  | act a next => exact congrArg a.gains (hagree.answer_eq hserial h.1)
  | settled | sleep | receive => rfl

theorem agree_turn (h : op.StaysIn realm) (hagree : World.Agree realm w w')
    (hserial : w.nextSerial = w'.nextSerial) (hhosts : w.Hosts realm) (hw : w.Numbered)
    (hw' : w'.Numbered) :
    World.Agree (realm ∪ op.gains w) (op.turn w).2 (op.turn w').2 := by
  cases op with
  | act a next => exact hagree.perform hserial hhosts hw hw' h.1
  | receive channel held next =>
    rw [turn_receive_eq, turn_receive_eq]
    exact (Set.union_empty realm).symm ▸ hagree
  | settled | sleep => exact (Set.union_empty realm).symm ▸ hagree

/-- What the operation gets to know is in its realm already, or it is new. -/
theorem of_gains (h : op.StaysIn realm) (hhosts : w.Hosts realm) {r : Resource}
    (hr : r ∈ op.gains w) : r ∈ realm ∨ ∃ token, r = .claim (.scope token) ∧
      w.nextSerial ≤ token.serial := by
  cases op with
  | act a next =>
    exact (hhosts.of_gains h.1 hr).imp id fun ⟨_, heq⟩ => ⟨_, heq, Nat.le_refl _⟩
  | settled | sleep | receive => exact hr.elim

end StaysIn

end Operation

end Effects
