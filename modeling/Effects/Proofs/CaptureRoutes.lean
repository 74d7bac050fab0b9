import Mathlib
import Effects.Proofs.Driving
import Effects.Proofs.Matching

/-!
# The two ways to capture a scope

A capture point can make its scope itself, or it can ask the surrounding layer for `call-cc` to make
it. The two differ in when tokens are minted. A scope that is made directly has its token from the
moment it is built, which may be long before it is entered; the layer mints a token when it is
asked. Also, the layer runs each body inside a layer of its own.

The main result is that the two show the same, up to a renaming of tokens and up to the first end.
The proof is an induction over programs: each part of a program, built in the two ways, matches as a
process, and so it still does when it is started later, with more tokens paired by then.
-/

namespace Effects

/-- The two processes will match when they are advanced, whatever tokens have been paired by then.
`ahead` are the tokens that the second one has minted while it was built. On the left `call-cc`
commands are served. -/
def Process.Agree (pairs : Pairing) (ahead : List Token) (p p' : Process) : Prop :=
  ∀ later : Pairing, pairs ⊆ later → later.OneToOne → (∀ token ∈ ahead, later.FreeRight token) →
    ∀ v, Behaviour.Matches later ahead ((p.advance v).behaviour true)
      ((p'.advance v).behaviour false)

/-- The same for runs that are started later. -/
def Run.Agree (pairs : Pairing) (r r' : Run) : Prop :=
  ∀ later : Pairing, pairs ⊆ later → later.OneToOne →
    Behaviour.Matches later [] (r.behaviour true) (r'.behaviour false)

namespace Process.Agree

variable {pairs : Pairing}

theorem pure (v : Value) : Process.Agree pairs [] (.pure v) (.pure v) :=
  fun _ _ _ _ _ => .value v

theorem fail (failure : Failure) : Process.Agree pairs [] (.fail failure) (.fail failure) :=
  fun _ _ _ _ _ => .failure failure

theorem perform (name : String) (hname : Kind.tag name ≠ .callCC) {payload payload' : Payload}
    (hpayload : ∀ later : Pairing, pairs ⊆ later →
      payload.Related (fun a b => (a, b) ∈ later) payload') :
    Process.Agree pairs [] (.perform (.tag name) payload) (.perform (.tag name) payload') := by
  intro later hlater _ _ v
  show Behaviour.Matches later []
    ((Run.suspended (.tag name) payload (.paused [] .ended)).behaviour true)
    ((Run.suspended (.tag name) payload' (.paused [] .ended)).behaviour false)
  rw [Run.behaviour_suspended fun h => hname h.2, Run.behaviour_suspended fun h => hname h.2]
  exact .command name (hpayload later hlater) fun v => .value v

theorem exit {a b : Token} (hpair : (a, b) ∈ pairs) (v : Value) :
    Process.Agree pairs [] (a.exit v) (b.exit v) := by
  intro later hlater _ _ _
  show Behaviour.Matches later []
    ((Run.suspended (.escape a) (.value v) (.paused [] .ended)).behaviour true)
    ((Run.suspended (.escape b) (.value v) (.paused [] .ended)).behaviour false)
  rw [Run.behaviour_suspended fun h => Kind.noConfusion h.2,
    Run.behaviour_suspended fun h => Kind.noConfusion h.2]
  exact .escape (hlater hpair) v fun v => .value v

theorem lazy {build build' : Unit → Run} (h : Run.Agree pairs (build ()) (build' ())) :
    Process.Agree pairs [] (.lazy build) (.lazy build') :=
  fun later hlater hone _ _ => h later hlater hone

theorem andThen {ahead : List Token} {p p' : Process} (hp : Process.Agree pairs ahead p p')
    {next next' : Value → Plan Process}
    (hnext : ∀ v, Run.Agree pairs (next v).start (next' v).start) :
    Process.Agree pairs ahead (p.andThen next) (p'.andThen next') := by
  intro later hlater hone hfree v
  rw [Process.andThen, Process.andThen, Process.advance_andThenHolding,
    Process.advance_andThenHolding, Run.behaviour_andThenHolding, Run.behaviour_andThenHolding,
    ← List.append_nil ahead]
  refine (hp later hlater hone hfree v).bind hone (by simp) (by simp) fun last hlast hone' _ v => ?_
  exact hnext v last (fun _ hpair => hlast (hlater hpair)) hone'

/-- Both parts may have minted tokens ahead, but not the same ones. -/
theorem andAlso {ahead more : List Token} {p p' q q' : Process}
    (hp : Process.Agree pairs ahead p p') (hq : Process.Agree pairs more q q')
    (hapart : ∀ token ∈ more, token ∉ ahead) :
    Process.Agree pairs (more ++ ahead) (p.andAlso q) (p'.andAlso q') := by
  intro later hlater hone hfree v
  have hfreeAhead : ∀ token ∈ ahead, later.FreeRight token :=
    fun token hin => hfree token (List.mem_append_right _ hin)
  have hfreeMore : ∀ token ∈ more, later.FreeRight token :=
    fun token hin => hfree token (List.mem_append_left _ hin)
  rw [Process.andAlso, Process.andAlso, Process.advance_andThenHolding,
    Process.advance_andThenHolding, Run.behaviour_andThenHolding, Run.behaviour_andThenHolding]
  refine Behaviour.Matches.weaken ?_ (List.append_subset.mpr
    ⟨List.subset_append_right _ _, List.subset_append_left _ _⟩)
  refine (hp later hlater hone hfreeAhead v).bind hone hfreeMore hapart
    fun last hlast hone' hfree' _ => ?_
  exact hq last (fun _ hpair => hlast (hlater hpair)) hone' hfree' .null

theorem map {ahead : List Token} {p p' : Process} (hp : Process.Agree pairs ahead p p')
    (f : Value → Value) :
    Process.Agree pairs ahead (p.map fun v => .done (f v)) (p'.map fun v => .done (f v)) := by
  intro later hlater hone hfree v
  rw [Process.map, Process.map, Process.advance_mapOnce, Process.advance_mapOnce,
    Run.behaviour_mapOnce, Run.behaviour_mapOnce, ← List.append_nil ahead]
  exact (hp later hlater hone hfree v).bind hone (by simp) (by simp) fun _ _ _ _ v => .value (f v)

theorem fold (items : List Value) (init : Value) {f f' : Value → Value → Run}
    (hf : ∀ acc item, Run.Agree pairs (f acc item) (f' acc item)) :
    Process.Agree pairs [] (.fold items init f) (.fold items init f') := by
  intro later hlater hone _ _
  show Behaviour.Matches later [] ((Run.foldFrom [] f items init).behaviour true)
    ((Run.foldFrom [] f' items init).behaviour false)
  induction items generalizing init later with
  | nil => exact .value init
  | cons item items ih =>
    rw [Run.foldFrom, Run.foldFrom, Run.behaviour_step, Run.behaviour_step]
    show Behaviour.Matches later ([] ++ []) _ _
    refine (hf init item later hlater hone).bind hone (by simp) (by simp)
      fun last hlast hone' _ acc => ?_
    exact ih acc last (fun _ hpair => hlast (hlater hpair)) hone' (by simp)

/-- A capture point. The scope that is made directly has minted its token ahead. -/
theorem capture {enter enter' : Token → Run}
    (hbody : ∀ later : Pairing, pairs ⊆ later → ∀ a b, (a, b) ∈ later →
      Run.Agree later (enter a) (enter' b)) (token : Token) :
    Process.Agree pairs [token] (callCCCommand enter) (.scope token [] enter') := by
  intro later hlater hone hfree v
  have htoken : token ∈ [token] := List.mem_singleton_self token
  show Behaviour.Matches later [token]
    ((Run.suspended .callCC (.body [] enter) (.paused [] .ended)).behaviour true)
    (((enter' token).within token).behaviour false)
  rw [Run.behaviour_served, Run.behaviour_within]
  -- the command mints the partner now, and from here on both sides run the body in a scope
  refine .paired htoken (hfree token htoken) fun partner hpartner => ?_
  have hone' := hone.cons hpartner (hfree token htoken)
  have hpair : (partner, token) ∈ (partner, token) :: later := List.mem_cons_self
  have henter := hbody _ (fun _ hin => List.mem_cons_of_mem _ (hlater hin)) partner token hpair _
    (fun _ hin => hin) hone'
  show Behaviour.Matches _ [token]
    ((((enter partner).behaviour true).catching partner).bind .value) _
  rw [Behaviour.bind_value]
  exact (henter.catching hone' hpair).weaken (List.nil_subset _)

end Process.Agree

/-! ## Plans that build processes -/

/-- The two plans build processes that agree. What a plan does is described by what is done after
it: runs that carry out the plans and go on with the processes match, if they match from there on.
The second plan may mint tokens ahead, in addition to those that are ahead already. -/
def Plan.Agree (pairs : Pairing) (plan plan' : Plan Process) : Prop :=
  ∀ (ahead : List Token) (next next' : Process → Run),
    (∀ (more : List Token) (p p' : Process),
      (∀ token ∈ more, pairs.FreeRight token ∧ token ∉ ahead) → Process.Agree pairs more p p' →
      Behaviour.Matches pairs (more ++ ahead) ((next p).behaviour true)
        ((next' p').behaviour false)) →
    Behaviour.Matches pairs ahead ((Run.ofPlan plan next).behaviour true)
      ((Run.ofPlan plan' next').behaviour false)

namespace Plan.Agree

variable {pairs : Pairing}

theorem done {p p' : Process} (h : Process.Agree pairs [] p p') :
    Plan.Agree pairs (.done p) (.done p') :=
  fun _ _ _ hnext => hnext [] p p' (by simp) h

theorem map {plan plan' : Plan Process} (h : Plan.Agree pairs plan plan') {f f' : Process → Process}
    (hf : ∀ more p p', Process.Agree pairs more p p' → Process.Agree pairs more (f p) (f' p')) :
    Plan.Agree pairs (plan.bind fun p => .done (f p)) (plan'.bind fun p => .done (f' p)) := by
  intro ahead next next' hnext
  rw [Run.ofPlan_bind, Run.ofPlan_bind]
  exact h ahead _ _ fun more p p' hmore hp => hnext more _ _ hmore (hf more p p' hp)

/-- Two processes in a row. The tokens that are minted ahead for the second one are new to the
first. -/
theorem andAlso {plan plan' other other' : Plan Process} (h : Plan.Agree pairs plan plan')
    (hother : Plan.Agree pairs other other') :
    Plan.Agree pairs (plan.bind fun p => other.bind fun q => .done (p.andAlso q))
      (plan'.bind fun p => other'.bind fun q => .done (p.andAlso q)) := by
  intro ahead next next' hnext
  simp only [Run.ofPlan_bind]
  refine h ahead _ _ fun first p p' hfirst hp => ?_
  refine hother (first ++ ahead) _ _ fun second q q' hsecond hq => ?_
  have hapart : ∀ token ∈ second, token ∉ first :=
    fun token hin hinFirst => (hsecond token hin).2 (List.mem_append_left _ hinFirst)
  rw [← List.append_assoc]
  refine hnext (second ++ first) _ _ (fun token hin => ?_) (hp.andAlso hq hapart)
  rcases List.mem_append.mp hin with hin | hin
  · exact ⟨(hsecond token hin).1, fun h => (hsecond token hin).2 (List.mem_append_right _ h)⟩
  · exact hfirst token hin

theorem capture {enter enter' : Token → Run}
    (hbody : ∀ later : Pairing, pairs ⊆ later → ∀ a b, (a, b) ∈ later →
      Run.Agree later (enter a) (enter' b)) :
    Plan.Agree pairs (.done (callCCCommand enter)) (callCC enter') := by
  intro ahead next next' hnext
  refine .ahead fun token hfree hnot => ?_
  refine hnext [token] _ _ (fun other hother => ?_) (.capture hbody token)
  obtain rfl := List.mem_singleton.mp hother
  exact ⟨hfree, hnot⟩

theorem act {a : Act} (ha : a.Plain) {rest rest' : a.Answer → Plan Process}
    (h : ∀ answer, Plan.Agree pairs (rest answer) (rest' answer)) :
    Plan.Agree pairs (.act a rest) (.act a rest') := by
  intro ahead next next' hnext
  have hdoing (serve : Bool) (r : a.Answer → Run) : (Run.act a r).behaviour serve =
      .act a fun answer => (r answer).behaviour serve := by
    cases a <;> first | rfl | exact ha.elim
  rw [Run.ofPlan, Run.ofPlan, hdoing, hdoing]
  exact .act ha fun answer => h answer ahead next next' hnext

theorem publish (name : String) {a b : Token} (hpair : (a, b) ∈ pairs) {plan plan' : Plan Process}
    (h : Plan.Agree pairs plan plan') :
    Plan.Agree pairs (.act (.publish name a) fun _ => plan)
      (.act (.publish name b) fun _ => plan') :=
  fun ahead next next' hnext => .publish name hpair (h ahead next next' hnext)

theorem published (name : String) {rest rest' : Option Token → Plan Process}
    (hfound : ∀ a b, (a, b) ∈ pairs → Plan.Agree pairs (rest (some a)) (rest' (some b)))
    (habsent : Plan.Agree pairs (rest none) (rest' none)) :
    Plan.Agree pairs (.act (.published name) rest) (.act (.published name) rest') :=
  fun ahead next next' hnext => .published name
    (fun a b hpair => hfound a b hpair ahead next next' hnext) (habsent ahead next next' hnext)

end Plan.Agree

/-- A process that is built and started at once. -/
theorem Run.Agree.start {pairs : Pairing} {plan plan' : Plan Process}
    (h : ∀ later : Pairing, pairs ⊆ later → later.OneToOne → Plan.Agree later plan plan') :
    Run.Agree pairs plan.start plan'.start := by
  intro later hlater hone
  refine h later hlater hone [] _ _ fun more p p' hmore hp => ?_
  rw [List.append_nil]
  exact hp later (fun _ hpair => hpair) hone (fun token hin => (hmore token hin).1) .null

/-! ## Programs -/

/-- Environments of tokens that stand for each other, extended by another pair. -/
theorem Pairing.related_cases {pairs : Pairing} {n : Nat} {env env' : Fin n → Token}
    (henv : ∀ i, (env i, env' i) ∈ pairs) {a b : Token} (hpair : (a, b) ∈ pairs) :
    ∀ i, ((Fin.cases a env i : Token), (Fin.cases b env' i : Token)) ∈ pairs := by
  intro i
  cases i using Fin.cases with
  | zero => exact hpair
  | succ i => exact henv i

/-- A program, built in the two ways, makes processes that agree. -/
theorem CaptureProgram.build_agree {n : Nat} (program : CaptureProgram n) {pairs : Pairing}
    {env env' : Fin n → Token} (henv : ∀ i, (env i, env' i) ∈ pairs) :
    Plan.Agree pairs (program.command env) (program.direct env') := by
  induction program generalizing pairs with
  | pure v => exact .done (.pure v)
  | fail failure => exact .done (.fail failure)
  | perform name hname payload => exact .done (.perform name hname fun _ _ => .same payload)
  | performBody name hname body ih =>
    exact .done (.perform name hname fun later hlater => .body body fun i => hlater (henv i))
  | exit escape v => exact .done (.exit (henv escape) v)
  | lazy program ih =>
    exact .done (.lazy (.start fun later hlater _ => ih fun i => hlater (henv i)))
  | andThen first rest ihfirst ihrest =>
    exact (ihfirst henv).map fun more p p' hp => hp.andThen fun v =>
      .start fun later hlater _ => ihrest v fun i => hlater (henv i)
  | andAlso first second ihfirst ihsecond => exact (ihfirst henv).andAlso (ihsecond henv)
  | map f program ih => exact (ih henv).map fun more p p' hp => hp.map f
  | fold items init f ih =>
    exact .done (.fold items init fun acc item =>
      .start fun later hlater _ => ih acc item fun i => hlater (henv i))
  | capture body ih =>
    -- the body is started under all the pairs that exist by then, its own among them
    refine .capture fun later hlater a b hpair => .start fun last hlast _ => ?_
    exact ih (Pairing.related_cases (fun i => hlast (hlater (henv i))) (hlast hpair))
  | leak name escape program ih => exact .publish name (henv escape) (ih henv)
  | retrieve name found absent ihfound ihabsent =>
    exact .published name (fun a b hpair => ihfound (Pairing.related_cases henv hpair))
      (ihabsent henv)
  | act a ha rest ih => exact .act ha fun answer => ih answer henv

/-- A world matches itself, with each known token in its own place. -/
theorem World.matches_self {w : World} {known : List Token}
    (hminted : ∀ token ∈ known, token.serial < w.nextSerial)
    (hpublished : ∀ entry ∈ w.published, entry.2 ∈ known) :
    ∃ pairs : Pairing, pairs.OneToOne ∧ (∀ token ∈ known, (token, token) ∈ pairs) ∧
      World.Matches pairs [] w w := by
  let pairs : Pairing := known.map fun token => (token, token)
  have hpairs : ∀ a b, (a, b) ∈ pairs ↔ a ∈ known ∧ a = b := by
    intro a b
    simp only [pairs, List.mem_map, Prod.mk.injEq]
    exact ⟨fun ⟨token, hin, ha, hb⟩ => ⟨ha ▸ hin, ha.symm.trans hb⟩,
      fun ⟨hin, hab⟩ => ⟨a, hin, rfl, hab⟩⟩
  refine ⟨pairs, ?_, fun token hin => (hpairs _ _).mpr ⟨hin, rfl⟩, ?_⟩
  · intro a b c d hab hcd
    rw [← ((hpairs a b).mp hab).2, ← ((hpairs c d).mp hcd).2]
  · refine ⟨rfl, rfl, rfl, rfl, ?_, fun a b hab => ?_, by simp⟩
    · exact List.forall₂_same.mpr fun entry hin =>
        ⟨rfl, (hpairs _ _).mpr ⟨hpublished entry hin, rfl⟩⟩
    · obtain ⟨hin, rfl⟩ := (hpairs a b).mp hab
      exact ⟨hminted a hin, hminted a hin⟩

/-- The two ways to capture a scope show the same, up to the first end and up to a renaming of the
tokens. Tokens that the program has been given stay as they are. -/
theorem capture_routes_agree {n : Nat} (program : CaptureProgram n) (env : Fin n → Token)
    {w : World} (henv : ∀ i, (env i).serial < w.nextSerial)
    (hpublished : ∀ entry ∈ w.published, entry.2.serial < w.nextSerial) (inputs : List Value) :
    ∃ rename : Equiv.Perm Token, (∀ i, rename (env i) = env i) ∧
      List.Forall₂ (Observed.Related fun a b => rename a = b)
        (Observed.upToEnd ((w.carryOut (program.command env)).2.observe
          ((w.carryOut (program.command env)).1.handledBy captureHandler) inputs))
        (Observed.upToEnd ((w.carryOut (program.direct env)).2.observe
          (w.carryOut (program.direct env)).1 inputs)) := by
  have hminted : ∀ token ∈ List.ofFn env ++ w.published.map Prod.snd,
      token.serial < w.nextSerial := by
    intro token hin
    rcases List.mem_append.mp hin with hin | hin
    · obtain ⟨i, rfl⟩ := List.mem_ofFn.mp hin
      exact henv i
    · obtain ⟨entry, hentry, rfl⟩ := List.mem_map.mp hin
      exact hpublished entry hentry
  obtain ⟨pairs, hone, hknown, hworld⟩ := World.matches_self hminted
    fun entry hin => List.mem_append_right _ (List.mem_map_of_mem hin)
  have hpairs : ∀ i, (env i, env i) ∈ pairs := fun i =>
    hknown _ (List.mem_append_left _ (List.mem_ofFn.mpr ⟨i, rfl⟩))
  cases inputs with
  | nil => exact ⟨Equiv.refl _, fun _ => rfl, .nil⟩
  | cons v inputs =>
    -- the first advances, together with the building of the processes
    have hfirst : Behaviour.Matches pairs []
        ((Run.ofPlan (program.command env) fun p =>
          (p.handledBy captureHandler).advance v).behaviour false)
        ((Run.ofPlan (program.direct env) fun p => p.advance v).behaviour false) := by
      have hserved : (Run.ofPlan (program.command env) fun p =>
          (p.handledBy captureHandler).advance v).behaviour false =
          (Run.ofPlan (program.command env) fun p => p.advance v).behaviour true :=
        Run.behaviour_ofPlan _ fun p => by
          rw [Process.advance_handledBy, Run.handledBy_captureHandler, Run.behaviour_capturing]
      rw [hserved]
      refine program.build_agree hpairs [] _ _ fun more p p' hmore hp => ?_
      rw [List.append_nil]
      exact hp pairs (fun _ hin => hin) hone (fun token hin => (hmore token hin).1) v
    obtain ⟨later, hlater, hone', hseen⟩ := World.observe_matches hone hfirst hworld inputs
    obtain ⟨rename, hrename⟩ := hone'.exists_renaming
    refine ⟨rename, fun i => hrename _ _ (hlater (hpairs i)), ?_⟩
    rw [World.settle_ofPlan, World.settle_ofPlan] at hseen
    exact hseen.imp fun o o' h => h.mono hrename

/-- The escape of a nested scope is leaked and used later, when its scope has been closed. Asked for
as commands, the scopes are numbered in the order in which they are entered; made directly, the
second scope of the sequence has its number before the nested one. -/
theorem leaked_escape_renamed :
    let program : CaptureProgram 1 :=
      .andAlso (.capture (.capture (.leak "k" 0 (.pure .null))))
        (.capture (.lazy (.retrieve "k" (.exit 0 (.str "late")) (.exit 1 .null))))
    let env : Fin 1 → Token := fun _ => ⟨1⟩
    let w : World := { nextSerial := 2, openScopes := [⟨1⟩], published := [("outer", ⟨1⟩)] }
    (∀ i, (env i).serial < w.nextSerial) ∧
      (∀ entry ∈ w.published, entry.2.serial < w.nextSerial) ∧
      (w.carryOut (program.command env)).2.observe
        ((w.carryOut (program.command env)).1.handledBy captureHandler) [.null] =
          [.suspended ⟨.escape ⟨3⟩, .value (.str "late")⟩] ∧
      (w.carryOut (program.direct env)).2.observe (w.carryOut (program.direct env)).1 [.null] =
          [.suspended ⟨.escape ⟨4⟩, .value (.str "late")⟩] ∧
      ∃ rename : Equiv.Perm Token, rename ⟨1⟩ = ⟨1⟩ ∧ rename ⟨3⟩ = ⟨4⟩ := by
  intro program env w
  have henv : ∀ i, (env i).serial < w.nextSerial := fun _ => by decide
  have hpublished : ∀ entry ∈ w.published, entry.2.serial < w.nextSerial := by
    simp [w]
  have hcommand : (w.carryOut (program.command env)).2.observe
      ((w.carryOut (program.command env)).1.handledBy captureHandler) [.null] =
        [.suspended ⟨.escape ⟨3⟩, .value (.str "late")⟩] := by cbv
  have hdirect : (w.carryOut (program.direct env)).2.observe
      (w.carryOut (program.direct env)).1 [.null] =
        [.suspended ⟨.escape ⟨4⟩, .value (.str "late")⟩] := by cbv
  obtain ⟨rename, hfixed, hseen⟩ := capture_routes_agree program env henv hpublished [.null]
  rw [hcommand, hdirect] at hseen
  refine ⟨henv, hpublished, hcommand, hdirect, rename, hfixed 0, ?_⟩
  cases hseen with
  | cons h _ => cases h with
    | escape h _ => exact h

end Effects
