import Mathlib.Data.Set.BooleanAlgebra
import Mathlib.Order.CompletePartialOrder
import Effects.Proofs.Answering
import Effects.Proofs.Staying

/-!
# State layers side by side

A state layer answers the commands of its kind from a state, and every run has a state of its own.
So what a run is answered is settled by the commands that it has asked itself, and by the worlds in
which it has asked them: the state is the initial one after these commands, in their order.
`Threaded.Serves` says this of a run that is one of many, advanced in any order, and that finds the
world as the others have left it.

What the others do to the world can be noticed, of course. If each process stays in a realm of its
own, and the layer stays there with it, nothing is noticed but the serials of the tokens, and a
process shows what it shows alone. This holds of any processes, by `World.Twins` for one advance and
`Apart` for all of them.
-/

namespace Effects

/-! ## Processes side by side -/

/-- An advance of one of several processes. -/
structure Visit (ι : Type) where
  /-- Which process is advanced. -/
  number : ι
  /-- With which input. -/
  input : Value
  /-- The world before the advance. -/
  found : World
  /-- What the advance shows. -/
  shown : Observed
  /-- The world after the advance. -/
  left : World

section

variable {ι : Type} [DecidableEq ι]

/-- Advances processes that share a world, in the order of a schedule. -/
def World.interleave (w : World) (ps : ι → Process) : List (ι × Value) → List (Visit ι)
  | [] => []
  | (number, input) :: schedule =>
    let ending := w.settle ((ps number).advance input)
    ⟨number, input, w, ending.1.observed, ending.2⟩ ::
      ending.2.interleave (Function.update ps number ending.1.rest) schedule

/-- The advances of the process with a number. -/
def visitsOf (number : ι) (visits : List (Visit ι)) : List (Visit ι) :=
  visits.filter fun visit => visit.number = number

variable (w : World) (ps : ι → Process) {number : ι} (input : Value) (schedule : List (ι × Value))

theorem visitsOf_interleave_self :
    let ending := w.settle ((ps number).advance input)
    visitsOf number (w.interleave ps ((number, input) :: schedule)) =
      ⟨number, input, w, ending.1.observed, ending.2⟩ ::
        visitsOf number
          (ending.2.interleave (Function.update ps number ending.1.rest) schedule) := by
  simp [visitsOf, World.interleave]

theorem visitsOf_interleave_of_ne {i : ι} (h : number ≠ i) :
    let ending := w.settle ((ps i).advance input)
    visitsOf number (w.interleave ps ((i, input) :: schedule)) =
      visitsOf number (ending.2.interleave (Function.update ps i ending.1.rest) schedule) := by
  simp [visitsOf, World.interleave, h.symm]

end

/-! ## The state of a run -/

/-- A command that a state layer has fulfilled. -/
structure Fulfilled where
  /-- The payload of the command. -/
  payload : Payload
  /-- The world in which the layer did. -/
  found : World

namespace Threaded

variable {σ : Type} (l : Threaded σ)

/-- The state after commands have been answered. -/
def after (asked : List Fulfilled) : σ :=
  asked.foldl (fun state command => (command.found.carryOut (l.answer state command.payload)).1.2)
    l.initial

/-- What comes of a command after others: the answer, the state and the world. -/
def answering (asked : List Fulfilled) (command : Fulfilled) :
    (Except Failure Value × σ) × World :=
  command.found.carryOut (l.answer (l.after asked) command.payload)

theorem after_concat (asked : List Fulfilled) (command : Fulfilled) :
    l.after (asked ++ [command]) = (l.answering asked command).1.2 := by
  simp [after, answering]

/-- An advance of a process without its state layer, and what it shows with the layer, when the
commands `asked` have been answered before. Then there is what remains of the process, all commands
after the advance, and the world. -/
inductive Attends :
    World → Run → List Fulfilled → Observed → Process → List Fulfilled → World → Prop
  | answered {w w₁ w' : World} {r : Run} {asked asked' : List Fulfilled} {payload : Payload}
    {rest rest' : Process} {v : Value} {shown : Observed}
    (hyield : w.settle r = (.suspended ⟨l.kind, payload⟩ rest, w₁))
    (hanswer : (l.answering asked ⟨payload, w₁.reported [l.update]⟩).1.1 = .ok v)
    (h : Attends (l.answering asked ⟨payload, w₁.reported [l.update]⟩).2 (rest.advance v)
      (asked ++ [⟨payload, w₁.reported [l.update]⟩]) shown rest' asked' w') :
    Attends w r asked shown rest' asked' w'
  | refused {w w₁ : World} {r : Run} {asked : List Fulfilled} {payload : Payload} {rest : Process}
    {failure : Failure} (hyield : w.settle r = (.suspended ⟨l.kind, payload⟩ rest, w₁))
    (hanswer : (l.answering asked ⟨payload, w₁.reported [l.update]⟩).1.1 = .error failure) :
    Attends w r asked (.failed failure) rest (asked ++ [⟨payload, w₁.reported [l.update]⟩])
      (l.answering asked ⟨payload, w₁.reported [l.update]⟩).2
  | passed {w w₁ : World} {r : Run} {asked : List Fulfilled} {command : Command} {rest : Process}
    (hyield : w.settle r = (.suspended command rest, w₁)) (hkind : command.kind ≠ l.kind) :
    Attends w r asked (.suspended command) rest asked w₁
  | completed {w w₁ : World} {r : Run} {asked : List Fulfilled} {v : Value} {rest : Process}
    (hends : w.settle r = (.completed v rest, w₁)) :
    Attends w r asked (.completed (w₁.carryOut (l.finish (l.after asked) v)).1)
      (.spent rest.held) asked (w₁.carryOut (l.finish (l.after asked) v)).2
  | failed {w w₁ : World} {r : Run} {asked : List Fulfilled} {failure : Failure} {rest : Process}
    (hends : w.settle r = (.failed failure rest, w₁)) :
    Attends w r asked (.failed failure) rest asked w₁

/-- The advances of a process are explained by the process without its state layer, by its inputs,
by the worlds that it finds, and by what it has asked itself. -/
inductive Serves {ι : Type} : Process → List Fulfilled → List (Visit ι) → Prop
  | nil (p : Process) (asked : List Fulfilled) : Serves p asked []
  | cons {p rest : Process} {asked asked' : List Fulfilled} {visit : Visit ι}
    {later : List (Visit ι)}
    (h : l.Attends visit.found (p.advance visit.input) asked visit.shown rest asked' visit.left)
    (hlater : Serves rest asked' later) : Serves p asked (visit :: later)

variable {l}

theorem Attends.act {w w' : World} {a : Act} {next : a.Answer → Run} {asked asked' : List Fulfilled}
    {shown : Observed} {rest : Process}
    (h : l.Attends (w.perform a).2 (next (w.perform a).1) asked shown rest asked' w') :
    l.Attends w (.act a next) asked shown rest asked' w' := by
  cases h with
  | answered hyield hanswer h => exact .answered hyield hanswer h
  | refused hyield hanswer => exact .refused hyield hanswer
  | passed hyield hkind => exact .passed hyield hkind
  | completed hends => exact .completed hends
  | failed hends => exact .failed hends

/-- An advance with the layer. -/
theorem exists_attends (r : Run) (asked : List Fulfilled) (w : World) :
    let ending := w.settle (r.threadedBy l (l.after asked))
    ∃ rest asked', l.Attends w r asked ending.1.observed rest asked' ending.2 ∧
      ending.1.rest = rest.threadedBy l (l.after asked') := by
  induction r using Run.induct generalizing asked w with
  | act a next ih =>
    obtain ⟨rest, asked', hattends, hrest⟩ := ih (w.perform a).1 asked (w.perform a).2
    exact ⟨rest, asked', hattends.act, hrest⟩
  | suspended kind payload rest ih =>
    have hyield : w.settle (.suspended kind payload rest) =
        (.suspended ⟨kind, payload⟩ rest, w) := rfl
    by_cases hkind : kind = l.kind
    · subst hkind
      let command : Fulfilled := ⟨payload, w.reported [l.update]⟩
      have hstate : l.after (asked ++ [command]) = (l.answering asked command).1.2 :=
        l.after_concat asked command
      have hcarried : (w.reported [l.update]).carryOut (l.answer (l.after asked) payload) =
          l.answering asked command := rfl
      rw [World.settle_threadedBy hyield, hcarried]
      rcases hanswer : l.answering asked command with ⟨⟨failure | v, state⟩, left⟩
      · rw [hanswer] at hstate
        refine ⟨rest, asked ++ [command], ?_, by rw [hstate]; rfl⟩
        have hrefused := Attends.refused hyield (congrArg (·.1.1) hanswer)
        rwa [show (l.answering asked command).2 = left from congrArg (·.2) hanswer] at hrefused
      · rw [hanswer] at hstate
        obtain ⟨rest', asked', hattends, hrest⟩ := ih v (asked ++ [command]) left
        rw [hstate] at hattends hrest
        simp only [Process.advance_threadedBy]
        refine ⟨rest', asked', .answered hyield (congrArg (·.1.1) hanswer) ?_, hrest⟩
        rwa [show (l.answering asked command).2 = left from congrArg (·.2) hanswer]
    · rw [Run.threadedBy, if_neg hkind]
      exact ⟨rest, asked, .passed hyield hkind, rfl⟩
  | completed v rest =>
    rw [Run.threadedBy, World.settle_ofPlan]
    exact ⟨.spent rest.held, asked, .completed rfl, rfl⟩
  | failed failure rest => exact ⟨rest, asked, .failed rfl, rfl⟩

/-- Advances of processes with the layer, each of them with commands that have been answered. -/
theorem serves_interleave {ι : Type} [DecidableEq ι] (ps : ι → Process)
    (asked : ι → List Fulfilled) (w : World) (schedule : List (ι × Value)) (number : ι) :
    l.Serves (ps number) (asked number)
      (visitsOf number
        (w.interleave (fun i => (ps i).threadedBy l (l.after (asked i))) schedule)) := by
  induction schedule generalizing ps asked w with
  | nil => exact .nil _ _
  | cons turn schedule ih =>
    obtain ⟨i, input⟩ := turn
    obtain ⟨rest, asked', hattends, hrest⟩ := exists_attends (l := l) ((ps i).advance input)
      (asked i) w
    rw [← Process.advance_threadedBy] at hattends hrest
    have hlater := ih (Function.update ps i rest) (Function.update asked i asked')
      (w.settle (((ps i).threadedBy l (l.after (asked i))).advance input)).2
    have hprocesses : (fun j => (Function.update ps i rest j).threadedBy l
        (l.after (Function.update asked i asked' j))) =
          Function.update (fun j => (ps j).threadedBy l (l.after (asked j))) i
            (w.settle (((ps i).threadedBy l (l.after (asked i))).advance input)).1.rest := by
      funext j
      by_cases hj : j = i
      · subst hj
        rw [Function.update_self, Function.update_self, Function.update_self, hrest]
      · rw [Function.update_of_ne hj, Function.update_of_ne hj, Function.update_of_ne hj]
    rw [hprocesses] at hlater
    by_cases hnumber : number = i
    · subst hnumber
      rw [Function.update_self, Function.update_self] at hlater
      rw [visitsOf_interleave_self]
      exact .cons hattends hlater
    · rw [Function.update_of_ne hnumber, Function.update_of_ne hnumber] at hlater
      rw [visitsOf_interleave_of_ne _ _ _ _ hnumber]
      exact hlater

end Threaded

/-! ## Processes in realms of their own -/

/-- The two worlds are the same for whoever stays in the realm. -/
structure World.Twins (realm : Realm) (w w' : World) : Prop where
  agree : World.Agree realm w w'
  serial : w.nextSerial = w'.nextSerial
  hosts : w.Hosts realm
  numbered : w.Numbered
  numbered' : w'.Numbered

/-- What an advance in the second of two worlds has changed, for the sake of those that stay in
other realms: the realm has become larger by new tokens only, and nothing else has changed. -/
structure World.Keeps (realm larger : Realm) (w w' : World) : Prop where
  grows : realm ⊆ larger
  fresh : ∀ r ∈ larger, r ∈ realm ∨
    ∃ token, r = .claim (.scope token) ∧ w.nextSerial ≤ token.serial
  content : ∀ r ∉ larger, w'.content r = w.content r
  serial : w.nextSerial ≤ w'.nextSerial

namespace World

theorem Keeps.refl (realm : Realm) (w : World) : Keeps realm realm w w :=
  ⟨subset_rfl, fun _ hr => .inl hr, fun _ _ => rfl, Nat.le_refl _⟩

theorem Keeps.trans {realm larger largest : Realm} {w w' w'' : World}
    (h : Keeps realm larger w w') (h' : Keeps larger largest w' w'') :
    Keeps realm largest w w'' where
  grows := h.grows.trans h'.grows
  fresh r hr := by
    rcases h'.fresh r hr with hold | ⟨token, rfl, hle⟩
    · exact h.fresh r hold
    · exact .inr ⟨token, rfl, h.serial.trans hle⟩
  content r hr := (h'.content r hr).trans (h.content r fun hin => hr (h'.grows hin))
  serial := h.serial.trans h'.serial

namespace Twins

variable {realm : Realm} {w w' : World}

theorem perform (h : Twins realm w w') {a : Act} (ha : a.touches ⊆ realm) :
    (w.perform a).1 = (w'.perform a).1 ∧
      Twins (realm ∪ a.gains (w.perform a).1) (w.perform a).2 (w'.perform a).2 ∧
      Keeps realm (realm ∪ a.gains (w.perform a).1) w' (w'.perform a).2 := by
  have hanswer : (w.perform a).1 = (w'.perform a).1 := h.agree.answer_eq h.serial ha
  refine ⟨hanswer, ⟨?_, ?_, h.hosts.perform ha, h.numbered.perform a, h.numbered'.perform a⟩,
    ⟨Set.subset_union_left, fun r hr => ?_, fun r hr => ?_, ?_⟩⟩
  · exact h.agree.perform h.serial h.hosts h.numbered h.numbered' ha
  · rw [nextSerial_perform, nextSerial_perform, h.serial]
  · rcases hr with hold | hnew
    · exact .inl hold
    · rcases h.hosts.of_gains ha hnew with hold | ⟨-, rfl⟩
      · exact .inl hold
      · exact .inr ⟨_, rfl, h.serial.symm.le⟩
  · refine content_perform_of_untouched w' (fun hin => hr (.inl (ha hin))) fun hin => ?_
    exact hr (.inr (hanswer ▸ hin))
  · rw [nextSerial_perform]
    exact Nat.le_add_right _ _

/-- An advance that stays in the realm ends in the same way in both worlds, and they remain the same
for what is left. -/
theorem settle {r : Run} (h : Twins realm w w') (hr : r.StaysIn realm) :
    (w.settle r).1 = (w'.settle r).1 ∧ ∃ larger, (w.settle r).1.rest.StaysIn larger ∧
      Twins larger (w.settle r).2 (w'.settle r).2 ∧ Keeps realm larger w' (w'.settle r).2 := by
  induction r using Run.induct generalizing realm w w' with
  | act a next ih =>
    obtain ⟨hanswer, htwins, hkeeps⟩ := h.perform hr.1
    obtain ⟨hstep, larger, hrest, htwins', hkeeps'⟩ := ih (w.perform a).1 htwins (hr.2 _)
    rw [settle_act, settle_act, ← hanswer]
    exact ⟨hstep, larger, hrest, htwins', hkeeps.trans hkeeps'⟩
  | suspended kind payload rest => exact ⟨rfl, realm, hr.2.2, h, .refl realm w'⟩
  | completed v rest => exact ⟨rfl, realm, hr, h, .refl realm w'⟩
  | failed failure rest => exact ⟨rfl, realm, hr, h, .refl realm w'⟩

end Twins

/-- What is seen while a process is advanced with one input after the other. With each input there
is the serial of the next token, since tokens are minted elsewhere, too. -/
def observeNumbered (w : World) (p : Process) : List (Nat × Value) → List Observed
  | [] => []
  | (serial, v) :: inputs =>
    let ending := (w.withSerial serial).settle (p.advance v)
    ending.1.observed :: ending.2.observeNumbered ending.1.rest inputs

end World

section

variable {ι : Type} {w : World} {ps : ι → Process} {realms : ι → Realm} {solo : ι → World}

/-- For a process that stays in the realm, the world is like another one, in which the process has
been alone. -/
structure Undisturbed (realm : Realm) (p : Process) (solo w : World) : Prop where
  stays : p.StaysIn realm
  agree : World.Agree realm solo w
  hosts : solo.Hosts realm
  numbered : solo.Numbered
  serial : solo.nextSerial ≤ w.nextSerial

/-- Each process has a realm of its own, and so is not disturbed by the others. -/
structure Apart (w : World) (ps : ι → Process) (realms : ι → Realm) (solo : ι → World) :
    Prop where
  numbered : w.Numbered
  disjoint : ∀ i j, i ≠ j → Disjoint (realms i) (realms j)
  undisturbed : ∀ i, Undisturbed (realms i) (ps i) (solo i) w

namespace Undisturbed

variable {realm larger : Realm} {p : Process} {solo w w' : World}

theorem twins (h : Undisturbed realm p solo w) (hw : w.Numbered) :
    World.Twins realm (solo.withSerial w.nextSerial) w where
  agree r hr := (solo.content_withSerial _ r).trans (h.agree r hr)
  serial := rfl
  hosts := ⟨fun token htoken => (h.hosts.minted token htoken).trans_le h.serial,
    h.hosts.published, h.hosts.offered⟩
  numbered token htoken := (h.numbered token htoken).trans_le h.serial
  numbered' := hw

/-- A realm into which nothing new comes. -/
theorem disjoint {other : Realm} (h : Undisturbed other p solo w)
    (hkeeps : World.Keeps realm larger w w') (hdisjoint : Disjoint realm other) :
    Disjoint larger other := by
  rw [Set.disjoint_left]
  intro r hr hin
  rcases hkeeps.fresh r hr with hold | ⟨token, rfl, hle⟩
  · exact Set.disjoint_left.mp hdisjoint hold hin
  · have hminted := h.hosts.minted token hin
    have hserial := h.serial
    omega

/-- An advance of another process does not disturb. -/
theorem keeps {other : Realm} (h : Undisturbed other p solo w)
    (hkeeps : World.Keeps realm larger w w') (hdisjoint : Disjoint realm other) :
    Undisturbed other p solo w' where
  stays := h.stays
  agree r hr :=
    have hout : r ∉ larger := fun hin => Set.disjoint_left.mp (h.disjoint hkeeps hdisjoint) hin hr
    (h.agree r hr).trans (hkeeps.content r hout).symm
  hosts := h.hosts
  numbered := h.numbered
  serial := h.serial.trans hkeeps.serial

end Undisturbed

namespace Apart

variable [DecidableEq ι]

/-- When one of the processes is advanced, it does what it does alone, and the processes are still
apart. -/
theorem advance (h : Apart w ps realms solo) (i : ι) (v : Value) :
    let alone := ((solo i).withSerial w.nextSerial).settle ((ps i).advance v)
    let ending := w.settle ((ps i).advance v)
    alone.1 = ending.1 ∧ ∃ realms', Apart ending.2 (Function.update ps i ending.1.rest) realms'
      (Function.update solo i alone.2) := by
  intro alone ending
  have htwins := (h.undisturbed i).twins h.numbered
  obtain ⟨hstep, larger, hrest, htwins, hkeeps⟩ :=
    htwins.settle ((h.undisturbed i).stays.advance v)
  have hdisjoint (j : ι) (hj : j ≠ i) : Disjoint larger (realms j) :=
    (h.undisturbed j).disjoint hkeeps (h.disjoint i j hj.symm)
  refine ⟨hstep, Function.update realms i larger, htwins.numbered', fun j k hne => ?_, fun j => ?_⟩
  · by_cases hj : j = i
    · subst hj
      rw [Function.update_self, Function.update_of_ne hne.symm]
      exact hdisjoint k hne.symm
    · rw [Function.update_of_ne hj]
      by_cases hk : k = i
      · subst hk
        rw [Function.update_self]
        exact (hdisjoint j hj).symm
      · rw [Function.update_of_ne hk]
        exact h.disjoint j k hne
  · by_cases hj : j = i
    · subst hj
      rw [Function.update_self, Function.update_self, Function.update_self]
      exact ⟨hstep ▸ hrest, htwins.agree, htwins.hosts, htwins.numbered, htwins.serial.le⟩
    · rw [Function.update_of_ne hj, Function.update_of_ne hj, Function.update_of_ne hj]
      exact (h.undisturbed j).keeps hkeeps (h.disjoint i j (Ne.symm hj))

/-- Processes that are apart show what each of them shows alone. -/
theorem shown_eq (h : Apart w ps realms solo) (schedule : List (ι × Value)) (number : ι) :
    (visitsOf number (w.interleave ps schedule)).map Visit.shown =
      (solo number).observeNumbered (ps number)
        ((visitsOf number (w.interleave ps schedule)).map
          fun visit => (visit.found.nextSerial, visit.input)) := by
  induction schedule generalizing w ps realms solo with
  | nil => rfl
  | cons turn schedule ih =>
    obtain ⟨i, input⟩ := turn
    obtain ⟨hstep, realms', hapart⟩ := h.advance i input
    have hlater := ih hapart
    by_cases hnumber : number = i
    · subst hnumber
      rw [Function.update_self, Function.update_self] at hlater
      rw [visitsOf_interleave_self, List.map_cons, List.map_cons, World.observeNumbered, hlater,
        hstep]
    · rw [Function.update_of_ne hnumber, Function.update_of_ne hnumber] at hlater
      rw [visitsOf_interleave_of_ne _ _ _ _ hnumber]
      exact hlater

end Apart

end

/-! ## Privacy -/

/-- **A state layer is a responder that keeps its state for one run.** With the layer, the driver
has the outcome that it has without the layer when the commands of the kind are answered in the
driver: from a state that begins with the initial one, each command on the state that the one before
has left, and everything else by the responder. The value comes from the last state; after a
failure, of an answer or of the process, nothing is made of the state. The responder ends in the
same state, and so does the world, reports aside. By the time the driver could conclude it has
dropped the process, which is still there when the layer concludes: so what the layer makes of its
last state must not ask about scopes.

Let any number of processes have the layer, and let them be advanced in any order. What each of them
shows is settled by its own inputs, by the worlds that it finds and by its own commands: the state
for an answer is the initial one after the commands that it has asked before. And if each process
stays in a realm of its own, and the layer in all of them, a process shows what it shows alone, with
the same serials for its tokens. -/
theorem state_layer_is_private_responder {σ : Type} (l : Threaded σ) :
    ((∀ last value, (l.finish last value).Blind) →
      ∀ (τ : Type) (respond : Responder τ) (c : Process) (state : τ) (w : World),
        let inside := w.carryOut ((l.toLayer.apply c).driveWith respond state)
        let outside := w.carryOut
          ((c.driveWith (respond.threading l) (l.initial, state)).bind l.conclude)
        inside.1 = outside.1 ∧ inside.2.quiet = outside.2.quiet) ∧
    ∀ (ι : Type) [DecidableEq ι] (cs : ι → Process) (w : World) (schedule : List (ι × Value))
      (number : ι),
      let layered := l.toLayer.apply (cs number)
      let visits := visitsOf number (w.interleave (fun i => l.toLayer.apply (cs i)) schedule)
      l.Serves (cs number) [] visits ∧
      ∀ realms : ι → Realm, (∀ i, (cs i).StaysIn (realms i)) → (∀ i, l.StaysIn (realms i)) →
        (∀ i j, i ≠ j → Disjoint (realms i) (realms j)) → (∀ i, w.Hosts (realms i)) → w.Numbered →
        visits.map Visit.shown =
          w.observeNumbered layered
            (visits.map fun visit => (visit.found.nextSerial, visit.input)) := by
  refine ⟨fun hfinish τ respond c state w => ?_, fun ι _ cs w schedule number => ⟨?_, ?_⟩⟩
  · have halike : ((l.toLayer.apply c).driveWith respond state).Alike
        ((c.driveWith (respond.threading l) (l.initial, state)).bind l.conclude) := by
      rw [Process.driveWith, Process.driveWith, Process.answeredBy_eq, Process.answeredBy_eq]
      show Plan.Alike (((c.threadedBy l l.initial).advance .null).answeredBy respond state) _
      rw [Process.advance_threadedBy]
      exact Run.alike_answeredBy_threadedBy respond hfinish _ l.initial state
    exact halike (rfl : w.quiet = w.quiet)
  · exact Threaded.serves_interleave cs (fun _ => []) w schedule number
  · intro realms hstays hl hdisjoint hhosts hnumbered
    have hapart : Apart w (fun i => l.toLayer.apply (cs i)) realms fun _ => w :=
      ⟨hnumbered, hdisjoint, fun i =>
        ⟨Threaded.staysIn_toLayer (hl i) (realms i) subset_rfl _ (hstays i), fun _ _ => rfl,
          hhosts i, hnumbered, Nat.le_refl _⟩⟩
    exact hapart.shown_eq schedule number

/-- Two processes log in turns, with a command of another kind in between. Driven alone, the first
one has the answer and its own entries. -/
theorem state_layer_private_of_two :
    let cs (second : Bool) : Process :=
      (logLine (if second then "b1" else "a1")).andThen fun _ => .done
        ((Process.perform (.tag "ask") .none).andThen fun answer => .done (log [answer]))
    let schedule : List (Bool × Value) :=
      [(false, .null), (true, .null), (true, .str "b2"), (false, .str "a2")]
    let visits (number : Bool) := visitsOf number
      (({} : World).interleave (fun i => collectLogs.toLayer.apply (cs i)) schedule)
    let collected (logs : List String) : Value :=
      .ofFields [("value", .null), ("logs", .list (logs.map fun line => .list [.str line]))]
    let respond : Responder Unit := fun _ _ => .done (.ok (.str "a2"), ())
    (∀ last value, (collectLogs.finish last value).Blind) ∧
      (World.carryOut {} ((collectLogs.toLayer.apply (cs false)).driveWith respond ())).1 =
        (.ok (collected ["a1", "a2"]), ()) ∧
      (visits false).map Visit.shown =
        [.suspended ⟨.tag "ask", .none⟩, .completed (collected ["a1", "a2"])] ∧
      (visits true).map Visit.shown =
        [.suspended ⟨.tag "ask", .none⟩, .completed (collected ["b1", "b2"])] := by
  intro cs schedule visits collected respond
  have hblind (last : List Value) (value : Value) : (collectLogs.finish last value).Blind := trivial
  have hstays (i : Bool) : (cs i).StaysIn ∅ := by
    have hlog (entry : List Value) : (log entry).StaysIn ∅ :=
      Process.staysIn_perform (Set.empty_subset _) trivial
    have hask : (Process.perform (.tag "ask") .none).StaysIn ∅ :=
      Process.staysIn_perform (Set.empty_subset _) trivial
    exact (hlog _).andThen fun _ => hask.andThen fun _ => hlog _
  have hlayer : collectLogs.StaysIn ∅ := Threaded.staysIn_computing ..
  have hdisjoint (i j : Bool) (_ : i ≠ j) : Disjoint (∅ : Realm) ∅ := disjoint_bot_left
  have hhosts : World.Hosts {} ∅ := ⟨nofun, nofun, nofun⟩
  have hnumbered : World.Numbered {} := by simp [World.Numbered]
  obtain ⟨hresponder, hprivate⟩ := state_layer_is_private_responder collectLogs
  have halone (number : Bool) := (hprivate Bool cs {} schedule number).2
    (fun _ => ∅) hstays (fun _ => hlayer) hdisjoint (fun _ => hhosts) hnumbered
  refine ⟨hblind, ?_, (halone false).trans rfl, (halone true).trans rfl⟩
  exact (hresponder hblind Unit respond (cs false) () {}).1.trans rfl

end Effects
