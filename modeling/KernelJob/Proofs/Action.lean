import KernelJob.Proofs.World

/-! # Reasoning about actions

An action ends with a value or with a failure, and either way the world has moved on. Statements
about actions are made in two forms.

* **`Action.Ensures x w Q E`** — from the world `w` the action `x` leads to `Q` if it completes and
  to `E` if it fails. It is computed through the structure of an action: `ensures_bind`,
  `ensures_attempt` and the rules for the elementary actions; a function that is called is passed
  by its own statement with `Ensures.bind`.
* **`Action.Keeps I x`** — whatever way `x` takes, it keeps the invariant `I`; `Action.Leads J I x`
  — it leads from `J` to `I`. -/

namespace KernelJob.Action

variable {α β : Type} {Q : α → World → Prop} {E : Failure → World → Prop} {w : World}

/-- **What an action ensures from a world**: `Q` of its value and the world after it if it
completes, `E` of its failure and the world after it if it does not. -/
def Ensures (x : Action α) (w : World) (Q : α → World → Prop) (E : Failure → World → Prop) : Prop :=
  match x w with
  | (.ok a, w') => Q a w'
  | (.error e, w') => E e w'

/-! ## Elementary actions -/

@[simp] theorem ensures_ok (a : α) : (ok a).Ensures w Q E ↔ Q a w := Iff.rfl

@[simp] theorem ensures_pure (a : α) : (pure a : Action α).Ensures w Q E ↔ Q a w := Iff.rfl

@[simp] theorem ensures_fail (e : Failure) : (fail e : Action α).Ensures w Q E ↔ E e w := Iff.rfl

@[simp] theorem ensures_world {Q : World → World → Prop} : world.Ensures w Q E ↔ Q w w := Iff.rfl

@[simp] theorem ensures_change {Q : Unit → World → Prop} (f : World → World) :
    (change f).Ensures w Q E ↔ Q () (f w) := Iff.rfl

@[simp] theorem ensures_changeHandle {Q : Unit → World → Prop} (f : Handle → Handle) :
    (changeHandle f).Ensures w Q E ↔ Q () { w with handle := f w.handle } := Iff.rfl

@[simp] theorem ensures_call {Q : Unit → World → Prop} (c : Call) :
    (call c).Ensures w Q E ↔ Q () (w.push (.call c)) := Iff.rfl

@[simp] theorem ensures_record {Q : Unit → World → Prop} (l : LogLevel) (s : LogSource) (m : Text) :
    (record l s m).Ensures w Q E ↔ Q () (w.push (.record ⟨l, s, m⟩)) := Iff.rfl

@[simp] theorem ensures_cancel {Q : Unit → World → Prop} :
    cancel.Ensures w Q E ↔ Q () ({ w with cancelled := true }.push .cancel) := Iff.rfl

/-- A value or a failure changes nothing. -/
@[simp] theorem ensures_ofExcept (r : Except Failure α) :
    (ofExcept r).Ensures w Q E ↔ match r with
      | .ok a => Q a w
      | .error e => E e w := by
  cases r <;> rfl

/-- An error of the kernel, if there is one, is the failure. -/
@[simp] theorem ensures_raiseKernel {Q : Unit → World → Prop} (e : Option KernelError) :
    (raiseKernel e).Ensures w Q E ↔ match e with
      | some e => E (.kernel e) w
      | none => Q () w := by
  cases e <;> rfl

/-! ## Composed actions -/

/-- An attempt has the outcome of the action as its value. -/
theorem attempt_apply (x : Action α) : attempt x w = (.ok (x w).1, (x w).2) := rfl

/-- What is made of the value of an action: a failure stays what it is. -/
theorem map_apply (f : α → β) (x : Action α) (w : World) :
    (f <$> x) w = ((x w).1.map f, (x w).2) := by
  show (x >>= fun a => pure (f a)) w = _
  rw [bind_apply]
  rcases x w with ⟨_ | _, _⟩ <;> rfl

/-- One action after another: the second starts where the first completed. -/
@[simp] theorem ensures_bind {Q : β → World → Prop} (x : Action α) (f : α → Action β) :
    (x >>= f).Ensures w Q E ↔ x.Ensures w (fun a w' => (f a).Ensures w' Q E) E := by
  unfold Ensures
  rw [bind_apply]
  rcases x w with ⟨_ | _, _⟩ <;> rfl

/-- An attempt completes with the outcome of the action. -/
@[simp] theorem ensures_attempt {Q : Except Failure α → World → Prop} (x : Action α) :
    (attempt x).Ensures w Q E ↔
      x.Ensures w (fun a w' => Q (.ok a) w') (fun e w' => Q (.error e) w') := by
  unfold Ensures attempt
  rcases x w with ⟨_ | _, _⟩ <;> rfl

/-- Two actions that end alike ensure the same. -/
theorem Ensures.congr {x y : Action α} (h : x w = y w) :
    x.Ensures w Q E ↔ y.Ensures w Q E := by
  unfold Ensures
  rw [h]

/-- Nothing in particular is ensured by every action. -/
theorem ensures_true (x : Action α) (w : World) :
    x.Ensures w (fun _ _ => True) fun _ _ => True := by
  unfold Ensures
  rcases x w with ⟨_ | _, _⟩ <;> trivial

/-- What is ensured may be weakened. -/
theorem Ensures.mono {x : Action α} {Q' : α → World → Prop} {E' : Failure → World → Prop}
    (h : x.Ensures w Q E) (hQ : ∀ a w', Q a w' → Q' a w') (hE : ∀ e w', E e w' → E' e w') :
    x.Ensures w Q' E' := by
  unfold Ensures at h ⊢
  rcases hx : x w with ⟨e | a, w'⟩
  · rw [hx] at h; exact hE e w' h
  · rw [hx] at h; exact hQ a w' h

/-- **A called action is passed by what it ensures**; its failure ends the whole. -/
theorem Ensures.bind {Q : β → World → Prop} {Q' : α → World → Prop} {x : Action α}
    {f : α → Action β} (h : x.Ensures w Q' E) (hf : ∀ a w', Q' a w' → (f a).Ensures w' Q E) :
    (x >>= f).Ensures w Q E := by
  rw [ensures_bind]
  exact h.mono hf fun _ _ he => he

/-- What an action ensures, read off the value and the world with which it ends. -/
theorem ensures_iff {x : Action α} :
    x.Ensures w Q E ↔
      (∀ a, (x w).1 = .ok a → Q a (x w).2) ∧ ∀ e, (x w).1 = .error e → E e (x w).2 := by
  unfold Ensures
  rcases x w with ⟨_ | _, _⟩ <;> simp

/-- What is ensured of the outcome and the world after an action, in every case. -/
theorem Ensures.outcome {x : Action α} {P : Except Failure α → World → Prop}
    (h : x.Ensures w (fun a w' => P (.ok a) w') (fun e w' => P (.error e) w')) :
    P (x w).1 (x w).2 := by
  unfold Ensures at h
  rcases hx : x w with ⟨e | a, w'⟩ <;> rw [hx] at h <;> exact h

/-- Two things that an action ensures are ensured together. -/
theorem Ensures.and {x : Action α} {Q' : α → World → Prop} {E' : Failure → World → Prop}
    (h : x.Ensures w Q E) (h' : x.Ensures w Q' E') :
    x.Ensures w (fun a w' => Q a w' ∧ Q' a w') (fun e w' => E e w' ∧ E' e w') := by
  unfold Ensures at h h' ⊢
  rcases hx : x w with ⟨e | a, w'⟩ <;> rw [hx] at h h' <;> exact ⟨h, h'⟩

/-- What is ensured in every case holds of the world after the action. -/
theorem Ensures.after {x : Action α} {P : World → Prop}
    (h : x.Ensures w (fun _ => P) (fun _ => P)) : P (x w).2 := by
  unfold Ensures at h
  rcases hx : x w with ⟨e | a, w'⟩ <;> rw [hx] at h <;> exact h

/-! ## Invariants -/

/-- **An action keeps an invariant**, whether it completes or fails. -/
def Keeps (I : World → Prop) (x : Action α) : Prop := ∀ w, I w → I (x w).2

variable {I : World → Prop}

/-- Keeping an invariant, as something that is ensured. -/
theorem Keeps.ensures {x : Action α} (h : Keeps I x) (hw : I w) :
    x.Ensures w (fun _ w' => I w') (fun _ w' => I w') := by
  rw [ensures_iff]
  exact ⟨fun _ _ => h w hw, fun _ _ => h w hw⟩

/-- What is ensured in every case is kept. -/
theorem keeps_of_ensures {x : Action α}
    (h : ∀ w, I w → x.Ensures w (fun _ w' => I w') (fun _ w' => I w')) : Keeps I x :=
  fun w hw => (h w hw).after

theorem keeps_pure (a : α) : Keeps I (pure a : Action α) := fun _ hw => hw

theorem keeps_fail (e : Failure) : Keeps I (fail e : Action α) := fun _ hw => hw

theorem keeps_world : Keeps I world := fun _ hw => hw

/-- A change keeps what holds of the changed world. -/
theorem keeps_change {f : World → World} (hf : ∀ w, I w → I (f w)) : Keeps I (change f) := hf

/-- A value or a failure keeps everything. -/
theorem keeps_ofExcept (r : Except Failure α) : Keeps I (ofExcept r) := by
  cases r with
  | ok a => exact keeps_pure a
  | error e => exact keeps_fail e

/-- An attempt keeps what the action keeps. -/
theorem Keeps.attempt {x : Action α} (h : Keeps I x) : Keeps I (attempt x) := h

/-- One action after another keeps what both keep. -/
theorem Keeps.bind {x : Action α} {f : α → Action β} (hx : Keeps I x) (hf : ∀ a, Keeps I (f a)) :
    Keeps I (x >>= f) := by
  apply keeps_of_ensures
  intro w hw
  exact (hx.ensures hw).bind fun a w' hw' => (hf a).ensures hw'

/-- **An action leads from one invariant to another**, whether it completes or fails. -/
def Leads (J I : World → Prop) (x : Action α) : Prop := ∀ w, J w → I (x w).2

variable {J : World → Prop}

/-- What begins with an action that leads to `I` goes on by keeping `I`. -/
theorem Leads.bind {x : Action α} {f : α → Action β} (hx : Leads J I x)
    (hf : ∀ a, Keeps I (f a)) : Leads J I (x >>= f) := by
  intro w hw
  have h : x.Ensures w (fun _ => I) (fun _ => I) :=
    ensures_iff.mpr ⟨fun _ _ => hx w hw, fun _ _ => hx w hw⟩
  exact (h.bind fun a _ hw' => (hf a).ensures hw').after

/-- What begins by keeping `J` may still lead to `I`. -/
theorem Keeps.bind_leads {x : Action α} {f : α → Action β} (hJI : ∀ w, J w → I w)
    (hx : Keeps J x) (hf : ∀ a, Leads J I (f a)) : Leads J I (x >>= f) := by
  intro w hw
  refine Ensures.after (P := I) ?_
  refine Ensures.bind ((hx.ensures hw).mono (fun _ _ h => h) fun _ _ h => hJI _ h) ?_
  exact fun a w' hw' => ensures_iff.mpr ⟨fun _ _ => hf a w' hw', fun _ _ => hf a w' hw'⟩

/-! ## Lines for a receiver -/

/-- Giving a line to a receiver: the world after it, and the failure of the receiver if it has one.
-/
theorem emit_apply (sink : Sink) (line : Text) (w : World) :
    emit sink line w =
      (match (sink.react w.lines line).failure with
        | some e => .error e
        | none => .ok (), w.emitted sink line) := by
  unfold emit World.emitted
  simp only [bind_apply, world_apply]
  rcases hr : sink.react w.lines line with ⟨_ | _, _ | _⟩ <;> rfl

/-- An invariant that every line leaves intact is ensured by giving a line; only a receiver that may
fail can make that fail. -/
theorem ensures_emit {sink : Sink} (hI : ∀ w line, I w → I (w.emitted sink line)) (line : Text)
    (hw : I w) :
    (emit sink line).Ensures w (fun _ => I) (fun _ w' => I w' ∧ ¬ sink.NeverFails) := by
  unfold Ensures
  rw [emit_apply]
  rcases hf : (sink.react w.lines line).failure with _ | e
  · exact hI w line hw
  · refine ⟨hI w line hw, fun hs => ?_⟩
    rw [hs] at hf
    cases hf

/-- The same for lines one after the other. -/
theorem ensures_emitAll {sink : Sink} (hI : ∀ w line, I w → I (w.emitted sink line))
    (lines : List Text) (hw : I w) :
    (emitAll sink lines).Ensures w (fun _ => I) (fun _ w' => I w' ∧ ¬ sink.NeverFails) := by
  induction lines generalizing w with
  | nil => exact hw
  | cons line lines ih => exact (ensures_emit hI line hw).bind fun _ _ hw => ih hw

/-- A receiver that only takes note is given lines, and nothing else happens. -/
theorem emitAll_of_passive {sink : Sink} (hs : sink.Passive) (lines : List Text) (w : World) :
    emitAll sink lines w = (.ok (), { w with trace := w.trace ++ lines.map .line }) := by
  induction lines generalizing w with
  | nil =>
    rw [List.map_nil, List.append_nil]
    rfl
  | cons line lines ih =>
    have hemit : emit sink line w = (.ok (), w.push (.line line)) := by
      rw [emit_apply, World.emitted_of_passive hs, hs]
    rw [emitAll, bind_apply, hemit]
    dsimp only
    rw [ih, World.push, List.map_cons, List.append_assoc, List.singleton_append]

/-- With a receiver that never fails, a failure that only the receiver can cause does not happen. -/
theorem Ensures.of_neverFails {sink : Sink} {x : Action α}
    (h : x.Ensures w Q (fun _ w' => I w' ∧ ¬ sink.NeverFails)) (hs : sink.NeverFails) :
    x.Ensures w Q E :=
  h.mono (fun _ _ hw => hw) fun _ _ hw => absurd hs hw.2

end KernelJob.Action
