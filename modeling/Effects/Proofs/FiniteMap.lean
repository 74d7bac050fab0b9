import Effects.Alone
import Effects.Proofs.Fields
import Effects.Proofs.Interleaving

/-!
# A store is a finite map

What a store means is a finite map from identifiers to records. `Bindings.Serves` says what such a
map answers to a request and which map it leaves behind, without a word about how a store keeps its
records. A store for which no refusals are due serves every request as its map does
(`Store.Holds.serves`), and so it serves every sequence of calls.

The record under an identifier can be read off the seeds and the requests alone: it is the one last
saved or seeded, unless it has been deleted since (`Bindings.lastBound`).
-/

namespace Effects

/-- Records by identifier: what a store means. -/
abbrev Bindings := Finmap fun _ : String => Value

namespace Bindings

/-! ## Requests to a finite map -/

/-- The record that is made of a seed. -/
def seedRecord (id : String) (payload : Value) : Value :=
  .ofFields [("id", .str id), ("payload", payload)]

/-- The map of some seeds; of two seeds with one identifier the later one counts. -/
def seeded (seeds : List (String × Value)) : Bindings :=
  seeds.foldl (fun m seed => m.insert seed.1 (seedRecord seed.1 seed.2)) ∅

/-- The identifiers that are bound, each of them once and in increasing order of their bytes. -/
def Lists (m : Bindings) (ids : List String) : Prop :=
  ids.Pairwise (fun a b => Text.bytes a < Text.bytes b) ∧ ∀ id, id ∈ ids ↔ id ∈ m

/-- What a finite map answers to a request, and the map afterwards. -/
inductive Serves (m : Bindings) : StoreRequest → Outcome → Bindings → Prop where
  /-- The record under an identifier, if there is one. -/
  | load (id : String) (args : List Value) :
    Serves m ⟨"load", .str id :: args⟩ (.ok ((m.lookup id).getD .null)) m
  /-- A record is bound to an identifier, and answered. -/
  | save (id : String) (args : List Value) :
    Serves m ⟨"save", .str id :: args⟩ (.ok (args.head?.getD .null))
      (m.insert id (args.head?.getD .null))
  /-- An identifier is freed, and it is answered whether it was bound. -/
  | delete (id : String) (args : List Value) {bound : Bool} (hbound : bound = true ↔ id ∈ m) :
    Serves m ⟨"delete", .str id :: args⟩ (.ok (.bool bound)) (m.erase id)
  /-- The identifiers that are bound. -/
  | list (args : List Value) {ids : List String} (hids : m.Lists ids) :
    Serves m ⟨"list", args⟩ (.ok (.list (ids.map .str))) m
  /-- The request is about a record, but names none. -/
  | unnamed {method : String} (hmethod : method ∈ ["load", "save", "delete"]) {args : List Value}
    (hargs : ∀ id more, args ≠ .str id :: more) :
    Serves m ⟨method, args⟩ (.error (.handler "db" (method ++ " needs a string id"))) m
  /-- There is no such request. -/
  | unknown {method : String} (hmethod : method ∉ ["load", "save", "delete", "list"])
    (args : List Value) :
    Serves m ⟨method, args⟩ (.error (.handler "db" ("unknown method '" ++ method ++ "'"))) m

/-- What a finite map answers to requests that follow each other, and the map after the last one. -/
inductive ServesAll : Bindings → List StoreRequest → List Outcome → Bindings → Prop where
  | nil (m : Bindings) : ServesAll m [] [] m
  | cons {m m' m'' : Bindings} {r : StoreRequest} {later : List StoreRequest} {outcome : Outcome}
    {outcomes : List Outcome} (hfirst : m.Serves r outcome m')
    (hlater : ServesAll m' later outcomes m'') :
    ServesAll m (r :: later) (outcome :: outcomes) m''

/-! ## Histories -/

/-- What a request makes of the record under an identifier. -/
def rebound (id : String) (record : Option Value) : StoreRequest → Option Value
  | ⟨"save", .str saved :: args⟩ => if saved = id then some (args.head?.getD .null) else record
  | ⟨"delete", .str deleted :: _⟩ => if deleted = id then none else record
  | _ => record

/-- The record last seeded or saved under an identifier, unless it has been deleted since. -/
def lastBound (seeds : List (String × Value)) (requests : List StoreRequest) (id : String) :
    Option Value :=
  requests.foldl (rebound id) ((seeds.reverse.lookup id).map (seedRecord id))

theorem lookup_seeded (seeds : List (String × Value)) (id : String) :
    (seeded seeds).lookup id = (seeds.reverse.lookup id).map (seedRecord id) := by
  induction seeds using List.reverseRecOn with
  | nil => rfl
  | append_singleton seeds seed ih =>
    have hseeded : seeded (seeds ++ [seed]) =
        (seeded seeds).insert seed.1 (seedRecord seed.1 seed.2) := by
      simp [seeded, List.foldl_append]
    obtain ⟨key, payload⟩ := seed
    rw [hseeded, List.reverse_concat, List.lookup_cons]
    by_cases hkey : id = key
    · subst hkey
      simp
    · rw [Finmap.lookup_insert_of_ne _ hkey, ih, beq_false_of_ne hkey]

/-- A request binds and frees identifiers as its history says. -/
theorem Serves.lookup_eq {m m' : Bindings} {r : StoreRequest} {outcome : Outcome}
    (h : m.Serves r outcome m') (id : String) : m'.lookup id = rebound id (m.lookup id) r := by
  cases h with
  | load | list => rfl
  | save saved args =>
    by_cases hid : saved = id
    · subst hid
      simp [rebound]
    · simp [rebound, hid, Finmap.lookup_insert_of_ne _ (Ne.symm hid)]
  | delete deleted args hbound =>
    by_cases hid : deleted = id
    · subst hid
      simp [rebound]
    · simp [rebound, hid, Finmap.lookup_erase_ne (Ne.symm hid)]
  | unnamed hmethod hargs =>
    unfold rebound
    split
    · next heq => cases heq; exact absurd rfl (hargs _ _)
    · next heq => cases heq; exact absurd rfl (hargs _ _)
    · rfl
  | unknown hmethod args =>
    unfold rebound
    split
    · next heq => cases heq; simp at hmethod
    · next heq => cases heq; simp at hmethod
    · rfl

theorem ServesAll.lookup_eq {m m' : Bindings} {requests : List StoreRequest}
    {outcomes : List Outcome} (h : m.ServesAll requests outcomes m') (id : String) :
    m'.lookup id = requests.foldl (rebound id) (m.lookup id) := by
  induction h with
  | nil m => rfl
  | cons hfirst hlater ih => rw [ih, hfirst.lookup_eq]; rfl

end Bindings

/-! ## Requests to a store -/

/-- The store holds the records of a finite map, and no refusals are due. -/
structure Store.Holds (s : Store) (m : Bindings) : Prop where
  /-- No attempt is going to be refused. -/
  failures_eq : s.failures = 0
  /-- The records are those of the map. -/
  represents : s.records.Represents m

namespace Store

variable {s : Store} {m : Bindings}

theorem holds_seeded (seeds : List (String × Value)) : (seeded seeds).Holds (.seeded seeds) := by
  have hkeeps (records : Fields Value) (m : Bindings) (h : records.Represents m) :
      Fields.Represents
        ((seeds.map fun seed => (seed.1, Bindings.seedRecord seed.1 seed.2)).foldl
          (fun records pair => records.insert pair.1 pair.2) records)
        (seeds.foldl (fun m seed => m.insert seed.1 (Bindings.seedRecord seed.1 seed.2)) m) := by
    induction seeds generalizing records m with
    | nil => exact h
    | cons seed seeds ih => exact ih _ _ (h.insert seed.1 _)
  exact ⟨rfl, hkeeps [] ∅ .nil⟩

theorem execute_load (s : Store) (id : String) (more : List Value) :
    s.execute ⟨"load", .str id :: more⟩ = (.ok ((s.records.get? id).getD .null), s) := rfl

theorem execute_save (s : Store) (id : String) (more : List Value) :
    s.execute ⟨"save", .str id :: more⟩ = (.ok (more.head?.getD .null),
      { s with records := s.records.insert id (more.head?.getD .null) }) := by
  rw [List.head?_eq_getElem?]
  rfl

theorem execute_of_unnamed (s : Store) {method : String}
    (hmethod : method ∈ ["load", "save", "delete"]) {args : List Value}
    (hargs : ∀ id more, args ≠ .str id :: more) :
    s.execute ⟨method, args⟩ = (.error (.handler "db" (method ++ " needs a string id")), s) := by
  have hidentifier : identifier ⟨method, args⟩ =
      .error (.handler "db" (method ++ " needs a string id")) := by
    cases args with
    | nil => rfl
    | cons first more =>
      cases first with
      | str id => exact absurd rfl (hargs id more)
      | _ => rfl
  simp only [List.mem_cons, List.not_mem_nil, or_false] at hmethod
  rcases hmethod with rfl | rfl | rfl <;> simp only [execute, hidentifier]

theorem execute_of_unknown (s : Store) {method : String}
    (hmethod : method ∉ ["load", "save", "delete", "list"]) (args : List Value) :
    s.execute ⟨method, args⟩ =
      (.error (.handler "db" ("unknown method '" ++ method ++ "'")), s) := by
  simp only [List.mem_cons, List.not_mem_nil, or_false, not_or] at hmethod
  simp [execute, hmethod]

/-- A store executes a request as the finite map serves it. -/
theorem Holds.serves (h : s.Holds m) (r : StoreRequest) :
    ∃ m', m.Serves r (s.execute r).1 m' ∧ (s.execute r).2.Holds m' := by
  obtain ⟨hfailures, hrecords⟩ := h
  obtain ⟨method, args⟩ := r
  by_cases hmethod : method ∈ ["load", "save", "delete"]
  · by_cases hargs : ∃ id more, args = .str id :: more
    · obtain ⟨id, more, rfl⟩ := hargs
      simp only [List.mem_cons, List.not_mem_nil, or_false] at hmethod
      rcases hmethod with rfl | rfl | rfl
      · rw [execute_load, hrecords.get?_eq]
        exact ⟨m, .load id more, hfailures, hrecords⟩
      · rw [execute_save]
        exact ⟨_, .save id more, hfailures, hrecords.insert id _⟩
      · have hbound : (s.records.get? id).isSome = true ↔ id ∈ m := by
          rw [hrecords.get?_eq, Finmap.lookup_isSome]
        exact ⟨_, .delete id more hbound, hfailures, hrecords.erase id⟩
    · have hunnamed : ∀ id more, args ≠ .str id :: more :=
        fun id more heq => hargs ⟨id, more, heq⟩
      rw [execute_of_unnamed s hmethod hunnamed]
      exact ⟨m, .unnamed hmethod hunnamed, hfailures, hrecords⟩
  · by_cases hlist : method = "list"
    · subst hlist
      have hids : m.Lists s.records.names :=
        ⟨hrecords.ordered.imp Text.bytes_lt_bytes, fun _ => hrecords.mem_names⟩
      exact ⟨m, .list args hids, hfailures, hrecords⟩
    · have hunknown : method ∉ ["load", "save", "delete", "list"] := by
        simp only [List.mem_cons, List.not_mem_nil, or_false, not_or] at hmethod ⊢
        exact ⟨hmethod.1, hmethod.2.1, hmethod.2.2, hlist⟩
      rw [execute_of_unknown s hunknown]
      exact ⟨m, .unknown hunknown args, hfailures, hrecords⟩

end Store

/-! ## Calls of a store -/

namespace Service

/-- Calls a store, for one request after the other: the outcomes, and the world afterwards. -/
def callAll (s : Service) (w : World) : List StoreRequest → List Outcome × World
  | [] => ([], w)
  | r :: later =>
    let called := (s.call r).start.alone w
    let (outcomes, w) := s.callAll called.world later
    (called.outcome :: outcomes, w)

variable {name : String} (latency : Option Nat) {w : World} {store : Store} {m : Bindings}

/-- A call that is not repeated makes one attempt. -/
theorem alone_call (hstore : w.stores.lookup name = some store) (r : StoreRequest) :
    (((⟨name, latency, none⟩ : Service).call r).start.alone w).outcome = (store.attempt r).1 ∧
      (((⟨name, latency, none⟩ : Service).call r).start.alone w).world =
        { w with stores := World.rebind w.stores name (store.attempt r).2 } := by
  have hattempt (elapsed : Nat) :
      (Operation.act (.attempt name r) Operation.settled).aloneFrom elapsed w =
        ⟨(store.attempt r).1, { w with stores := World.rebind w.stores name (store.attempt r).2 },
          elapsed⟩ := by
    show Operation.aloneFrom elapsed (w.perform (.attempt name r)).2
      (.settled (w.perform (.attempt name r)).1) = _
    rw [World.perform_attempt hstore]
    rfl
  cases latency with
  | none =>
    have hcall := hattempt 0
    exact ⟨congrArg Ending.outcome hcall, congrArg Ending.world hcall⟩
  | some ms =>
    have hcall := hattempt (0 + ms)
    exact ⟨congrArg Ending.outcome hcall, congrArg Ending.world hcall⟩

/-- Calls of a store that holds a finite map are served by the map. -/
theorem callAll_serves (hstore : w.stores.lookup name = some store) (h : store.Holds m)
    (requests : List StoreRequest) :
    ∃ m' last, m.ServesAll requests
        ((⟨name, latency, none⟩ : Service).callAll w requests).1 m' ∧
      ((⟨name, latency, none⟩ : Service).callAll w requests).2.stores.lookup name = some last ∧
      last.Holds m' := by
  induction requests generalizing w store m with
  | nil => exact ⟨m, store, .nil m, hstore, h⟩
  | cons r later ih =>
    have hattempt : store.attempt r = store.execute r := by rw [Store.attempt, h.failures_eq]
    obtain ⟨houtcome, hworld⟩ := alone_call latency hstore r
    rw [hattempt] at houtcome hworld
    obtain ⟨m', hserves, hholds⟩ := h.serves r
    have hnext := World.lookup_rebind hstore (store.execute r).2
    obtain ⟨m'', last, hlater, hlast, hend⟩ :=
      ih (w := { w with stores := World.rebind w.stores name (store.execute r).2 }) hnext hholds
    simp only [callAll, houtcome, hworld]
    exact ⟨m'', last, .cons hserves hlater, hlast, hend⟩

end Service

/-- A store is a finite map, as far as its calls show. Whatever records it is seeded with, and
whatever it is called with, one call after the other and with any latency, it answers as the map
does, and in the end there are as many records as identifiers that are bound. What is bound to an
identifier is the record last seeded or saved, unless it has been deleted since. -/
theorem store_refines_finite_map (seeds : List (String × Value)) (name : String)
    (latency : Option Nat) (w : World) (requests : List StoreRequest) :
    let service : Service := ⟨name, latency, none⟩
    let called := service.callAll { w with stores := (name, .seeded seeds) :: w.stores } requests
    ∃ (m : Bindings) (store : Store), (Bindings.seeded seeds).ServesAll requests called.1 m ∧
      (∀ id, m.lookup id = Bindings.lastBound seeds requests id) ∧
      called.2.stores.lookup name = some store ∧ store.size = m.keys.card := by
  intro service called
  have hstore : (({ w with stores := (name, .seeded seeds) :: w.stores } : World)).stores.lookup
      name = some (.seeded seeds) := List.lookup_cons_self
  obtain ⟨m, store, hserves, hlast, hholds⟩ :=
    Service.callAll_serves latency hstore (Store.holds_seeded seeds) requests
  refine ⟨m, store, hserves, fun id => ?_, hlast, hholds.represents.length_eq⟩
  rw [hserves.lookup_eq, Bindings.lookup_seeded]
  rfl

end Effects
