import Effects.Program.Product
import Effects.Proofs.Answering

/-!
# The product leaves its scope at the first zero

The body of a product is a loop in a scope of its own, with a layer for `call-cc` commands inside of
the scope and another one outside, which waits for its value: this is the context `servedScope`. In
it the loop inspects one element after the other (`drive_loop_cons`), until it comes to a zero,
whose escape ends the scope (`alike_drive_exit`), or to the end of the list.

Whether a product is left early is a matter of its elements alone. A product that has become zero
without a zero in the list goes on to the end.
-/

namespace Effects

/-! ## Plans inside a context -/

theorem Run.drive_ofPlan {α : Type} (plan : Plan α) (next : α → Run) :
    (Run.ofPlan plan next).drive = plan.bind fun a => (next a).drive := by
  induction plan with
  | done a => rfl
  | act a rest ih => exact congrArg (Plan.act a) (funext ih)

namespace Program

/-! ## The loop of a product -/

/-- What lies around the body of a product under the layer for `call-cc` commands: the process that
waits for the outcome of the scope, the scope, and a layer of the same kind within it. -/
def servedScope (token : Token) : Context :=
  [.serving .callCC ((Process.paused [] .ended).handledBy captureHandler), .scope token,
    .handled captureHandler]

/-- What a product does with an element. -/
def multiplying (inspect : Float → Plan Unit) (token : Token) (product item : Value) : Run :=
  let x := item.asNum?.getD 0
  .ofPlan (inspect x) fun _ =>
    if x == 0 then (token.exit zeroProduct).start
    else (Process.pure (.num (product.asNum?.getD 0 * x))).start

theorem run_servedScope (token : Token) (r : Run) :
    Context.run (servedScope token) r =
      .serving .callCC (Process.paused [] fun v => (Run.ended v).capturing)
        (r.capturing.within token) := by
  rw [← Run.handledBy_captureHandler]
  rfl

section

variable (inspect : Float → Plan Unit) (token : Token)

/-- The loop of a product, from an accumulator on. -/
def multiplyingFrom (xs : List Float) (acc : Float) : Run :=
  .foldFrom [] (multiplying inspect token) (xs.map .num) (.num acc)

/-- Closes a scope and returns a value. -/
def leaving (v : Value) : Plan Outcome :=
  (Plan.release [.scope token]).bind fun _ => .done (.ok v)

theorem drive_ended (v : Value) :
    (Context.run (servedScope token) (.ended v)).drive = leaving token v := rfl

/-- The escape passes the layer within the scope, and ends the scope. -/
theorem alike_drive_exit (loop : Value → Run) (v : Value) :
    (Context.run (servedScope token) ((token.exit v).start.step [] loop)).drive.Alike
      (leaving token v) := by
  have hkind : Kind.escape token ≠ captureHandler.kind := nofun
  let passed : Event := ⟨.trace, "passing command through",
    [("kind", token.shown), ("handling", Kind.callCC.shown)], false⟩
  have hpassed : Context.run (servedScope token) ((token.exit v).start.step [] loop) =
      .act (.report passed) fun _ => Context.run (servedScope token).dropLast
        (.suspended (.escape token) (.value v)
          (((Process.paused [] .ended).step [] loop).handledBy captureHandler)) := by
    show Context.run (servedScope token).dropLast
      (Run.handledBy captureHandler (.suspended (.escape token) (.value v) _)) = _
    rw [Run.handledBy, if_neg hkind]
    rfl
  rw [hpassed]
  refine .reported rfl ?_
  show Plan.Alike (Run.serving .callCC _ (Run.within token (.suspended (.escape token) (.value v)
    _))).drive _
  rw [Run.within_escape]
  exact .reported rfl (.refl _)

/-- An element is inspected; then the loop is left, or it goes on. -/
theorem drive_loop_cons (x acc : Float) (xs : List Float) :
    (Context.run (servedScope token) (multiplyingFrom inspect token (x :: xs) acc)).drive =
      (inspect x).bind fun _ => (Context.run (servedScope token)
        (if x == 0 then
          (token.exit zeroProduct).start.step []
            (.foldFrom [] (multiplying inspect token) (xs.map .num))
        else multiplyingFrom inspect token xs (acc * x))).drive := by
  have hstep : multiplyingFrom inspect token (x :: xs) acc =
      Context.run [.looping [] (.foldFrom [] (multiplying inspect token) (xs.map .num))]
        (.ofPlan (inspect x) fun _ =>
          if x == 0 then (token.exit zeroProduct).start
          else (Process.pure (.num (acc * x))).start) := rfl
  rw [hstep, Context.run_ofPlan, Context.run_ofPlan, Run.drive_ofPlan]
  congr 1
  funext _
  split <;> rfl

theorem drive_loop {xs : List Float} (hxs : ∀ x ∈ xs, (x == 0) = false) (acc : Float) :
    (Context.run (servedScope token) (multiplyingFrom inspect token xs acc)).drive =
      (xs.forM inspect).bind fun _ => leaving token (.num (xs.foldl (· * ·) acc)) := by
  induction xs generalizing acc with
  | nil => exact drive_ended token _
  | cons x xs ih =>
    obtain ⟨hx, hxs⟩ := List.forall_mem_cons.mp hxs
    rw [drive_loop_cons, hx]
    show (inspect x).bind (fun _ => _) = ((inspect x).bind fun _ => xs.forM inspect).bind _
    rw [Plan.bind_assoc]
    exact congrArg _ (funext fun _ => ih hxs (acc * x))

theorem alike_drive_loop {before : List Float} (hbefore : ∀ x ∈ before, (x == 0) = false)
    {zero : Float} (hzero : (zero == 0) = true) (after : List Float) (acc : Float) :
    (Context.run (servedScope token)
        (multiplyingFrom inspect token (before ++ zero :: after) acc)).drive.Alike
      (((before ++ [zero]).forM inspect).bind fun _ => leaving token zeroProduct) := by
  induction before generalizing acc with
  | nil =>
    rw [List.nil_append, drive_loop_cons, hzero]
    show Plan.Alike _ (((inspect zero).bind fun _ => .done ()).bind _)
    rw [Plan.bind_assoc]
    exact .bind (.refl _) fun _ => alike_drive_exit token _ zeroProduct
  | cons x before ih =>
    -- as the element is not zero, the loop goes on, with another accumulator
    obtain ⟨hx, hbefore⟩ := List.forall_mem_cons.mp hbefore
    rw [List.cons_append, drive_loop_cons, hx]
    show Plan.Alike _ (((inspect x).bind fun _ => (before ++ [zero]).forM inspect).bind _)
    rw [Plan.bind_assoc]
    exact .bind (.refl _) fun _ => ih hbefore (acc * x)

end

/-- Inspects elements in a scope of its own, one after the other, and leaves it with a value. -/
def inspectingAll (xs : List Float) (inspect : Float → Plan Unit) (v : Value) : Plan Outcome :=
  .act .mint fun (token : Token) => (xs.forM inspect).bind fun _ => leaving token v

/-- Under its layer a product is a scope around the loop. -/
theorem alike_drive_product (xs : List Float) (inspect : Float → Plan Unit) {visited : List Float}
    {v : Value} (h : ∀ token,
      (Context.run (servedScope token) (multiplyingFrom inspect token xs 1)).drive.Alike
        ((visited.forM inspect).bind fun _ => leaving token v)) :
    (captureHandler.toLayer.apply (inspectedProduct xs inspect)).drive.Alike
      (inspectingAll visited inspect v) := by
  refine .reported rfl (.act .mint fun (token : Token) => ?_)
  have hscope := h token
  rw [run_servedScope] at hscope
  exact hscope

/-- **A product is left at the first zero.** Without a zero among its elements, all of them are
inspected in order, and the outcome is the product from the left, whatever it has come to. Else the
elements are inspected up to the first zero, which is the last one, and the outcome says so. In
either case the run succeeds, and apart from reports it does nothing but to inspect, in a scope of
its own. Equality with zero is that of doubles, which holds of `-0` and not of `NaN`. -/
theorem product_leaves_at_first_zero (xs : List Float) (inspect : Float → Plan Unit) :
    let run := (captureHandler.toLayer.apply (inspectedProduct xs inspect)).drive
    ((∀ x ∈ xs, (x == 0) = false) →
      run.Alike (inspectingAll xs inspect (.num (xs.foldl (· * ·) 1)))) ∧
    ∀ before zero after, xs = before ++ zero :: after → (∀ x ∈ before, (x == 0) = false) →
      (zero == 0) = true → run.Alike (inspectingAll (before ++ [zero]) inspect zeroProduct) := by
  intro run
  refine ⟨fun hxs => ?_, fun before zero after hsplit hbefore hzero => ?_⟩
  · exact alike_drive_product xs inspect fun token => drive_loop inspect token hxs 1 ▸ .refl _
  · subst hsplit
    exact alike_drive_product _ inspect fun token =>
      alike_drive_loop inspect token hbefore hzero after 1

/-- Notes a label for each element. -/
def noting (label : Float → String) (x : Float) : Plan Unit := .act (.note (label x)) .done

theorem carryOut_forM_noting (label : Float → String) (xs : List Float) (w : World) :
    (w.carryOut (xs.forM (noting label))).2 =
      { w with notes := w.notes ++ (xs.map label).toArray } := by
  induction xs generalizing w with
  | nil =>
    show w = _
    simp
  | cons x xs ih =>
    show ((w.perform (.note (label x))).2.carryOut (xs.forM _)).2 = _
    rw [ih]
    simp [World.perform]

/-- The elements that are inspected are noted in order. -/
theorem notes_inspectingAll (label : Float → String) (xs : List Float) (v : Value) (w : World) :
    (w.carryOut (inspectingAll xs (noting label) v)).2.notes.toList =
      w.notes.toList ++ xs.map label := by
  have hleaving (token : Token) (w : World) :
      (w.carryOut (leaving token v)).2.notes = w.notes := by
    simp [leaving, World.release, World.releaseOne]
  show ((w.perform .mint).2.carryOut
    ((xs.forM (noting label)).bind fun _ => leaving ⟨w.nextSerial⟩ v)).2.notes.toList = _
  rw [World.carryOut_bind, hleaving, carryOut_forM_noting]
  simp [World.perform]

/-- A product with `NaN` and `-0` in it is left at `-0`, before its last element. A product of two
numbers so small that it is zero goes on to the end. -/
theorem product_of_nan_and_negative_zero :
    let label : Float → String := fun x =>
      if x == 0 then "zero" else if x.isNaN then "nan" else "number"
    let tiny : Float := Float.ofBits 1
    let left := (({} : World).carryOut
      (captureHandler.toLayer.apply (inspectedProduct [2, 0 / 0, -0, 5] (noting label))).drive)
    let whole := (({} : World).carryOut
      (captureHandler.toLayer.apply (inspectedProduct [tiny, tiny] (noting label))).drive)
    left.1 = .ok zeroProduct ∧ left.2.notes.toList = ["number", "nan", "zero"] ∧
      (1 * tiny * tiny == 0) = true ∧ whole.1 = .ok (.num (1 * tiny * tiny)) ∧
      whole.2.notes.toList = ["number", "number"] := by
  intro label tiny left whole
  obtain ⟨hleft, hleftWorld⟩ := (product_leaves_at_first_zero [2, 0 / 0, -0, 5] (noting label)).2
    [2, 0 / 0] (-0) [5] rfl (by decide) (by decide) (rfl : ({} : World).quiet = _)
  obtain ⟨hwhole, hwholeWorld⟩ := (product_leaves_at_first_zero [tiny, tiny] (noting label)).1
    (by decide) (rfl : ({} : World).quiet = _)
  have hnotes {w w' : World} (h : w.quiet = w'.quiet) : w.notes.toList = w'.notes.toList := by
    obtain ⟨events, rfl, -⟩ := World.eq_of_quiet_eq h
    rfl
  refine ⟨hleft, ?_, by decide +kernel, hwhole, ?_⟩
  · rw [hnotes hleftWorld, notes_inspectingAll]
    decide
  · rw [hnotes hwholeWorld, notes_inspectingAll]
    decide

end Program

end Effects
