import KernelJob.Proofs.Session.Turns

/-! # Units without a deadline

A unit of which no turn is overdue is executed as if there were no deadline. Nothing but the
beginning of a turn looks at the deadline, and a turn that is not overdue begins as it does without
one.

* **`World.unhurried`**, **`Session.Execution.unhurried`** — a world and an execution without a
  deadline.
* **`Action.Alike`** — two actions that end alike, the one in a world without a deadline.
* **`Action.Heedless`** — an action that ends alike with and without a deadline.
* **`Session.drain_alike`** — so does the wait for a kernel if no turn of it is overdue. -/

namespace KernelJob

/-- **The world without a deadline** for units. -/
def World.unhurried (w : World) : World :=
  { w with handle := { w.handle with config := { w.handle.config with executionTimeout := none } } }

namespace Action

variable {α β : Type} {w : World}

/-- **Two actions that end alike**, the first of them in the world without a deadline. -/
def Alike (y z : Action α) (w : World) : Prop := y w.unhurried = ((z w).1, (z w).2.unhurried)

/-- **An action that does not look at the deadline.** -/
def Heedless (y : Action α) : Prop := ∀ w, Alike y y w

/-! ## Rules -/

theorem heedless_pure (a : α) : Heedless (pure a : Action α) := fun _ => rfl

theorem heedless_fail (e : Failure) : Heedless (fail e : Action α) := fun _ => rfl

/-- A value or a failure does not look at anything. -/
theorem heedless_ofExcept (r : Except Failure α) : Heedless (ofExcept r) := by
  cases r with
  | ok a => exact heedless_pure a
  | error e => exact heedless_fail e

/-- A change that leaves the deadline alone. -/
theorem heedless_change {f : World → World} (hf : ∀ w, f w.unhurried = (f w).unhurried) :
    Heedless (change f) := by
  intro w
  show (Except.ok (), f w.unhurried) = (Except.ok (), (f w).unhurried)
  rw [hf]

/-- **Actions that end alike one after the other.** -/
theorem Alike.bind {y z : Action α} {f g : α → Action β} (h : Alike y z w)
    (hf : ∀ a v, z w = (.ok a, v) → Alike (f a) (g a) v) : Alike (y >>= f) (z >>= g) w := by
  unfold Alike at h ⊢
  rw [bind_apply, bind_apply, h]
  rcases hz : z w with ⟨e | a, v⟩
  · rfl
  · exact hf a v hz

/-- Actions one after the other that do not look at the deadline. -/
theorem Heedless.bind {y : Action α} {f : α → Action β} (h : Heedless y)
    (hf : ∀ a, Heedless (f a)) : Heedless (y >>= f) :=
  fun w => (h w).bind fun a v _ => hf a v

/-- A look at the world that does not see the deadline. -/
theorem heedless_look {f : World → Action α} (hf : ∀ w, f w.unhurried = f w)
    (h : ∀ w, Heedless (f w)) : Heedless (world >>= f) := by
  intro w
  show f w.unhurried w.unhurried = _
  rw [hf]
  exact h w w

/-- An attempt looks at what the action looks at. -/
theorem Heedless.attempt {y : Action α} (h : Heedless y) : Heedless (attempt y) := by
  intro w
  show (Except.ok (y w.unhurried).1, (y w.unhurried).2) = _
  rw [h w]
  rfl

/-! ## Elementary actions -/

theorem heedless_record (level : LogLevel) (source : LogSource) (message : Text) :
    Heedless (record level source message) := heedless_change fun _ => rfl

theorem heedless_call (c : Call) : Heedless (call c) := heedless_change fun _ => rfl

theorem heedless_raiseKernel (e : Option KernelError) : Heedless (raiseKernel e) := by
  cases e with
  | none => exact heedless_pure ()
  | some e => exact heedless_fail _

/-- A receiver does not know of the deadline. -/
theorem heedless_emit (sink : Sink) (line : Text) : Heedless (emit sink line) := by
  intro w
  have hemitted : w.unhurried.emitted sink line = (w.emitted sink line).unhurried := by
    have hlines : w.unhurried.lines = w.lines := rfl
    unfold World.emitted
    rw [hlines]
    by_cases hcancels : (sink.react w.lines line).cancels = true
    · rw [if_pos hcancels, if_pos hcancels]
      rfl
    · rw [if_neg hcancels, if_neg hcancels]
      rfl
  unfold Alike
  rw [emit_apply, emit_apply, hemitted]
  rfl

theorem heedless_emitAll (sink : Sink) (lines : List Text) : Heedless (emitAll sink lines) := by
  induction lines with
  | nil => exact heedless_pure ()
  | cons line lines ih => exact (heedless_emit sink line).bind fun _ => ih

end Action

namespace Session

open KernelJob.Action

/-- **An execution without a deadline.** -/
def Execution.unhurried (x : Execution) : Execution := { x with deadline := none }

variable {x : Execution} {w : World} {c : Captured}

/-- A traceback is collected without a look at the deadline. -/
theorem collectTraceback_unhurried (x : Execution) (items : List Json) (c : Captured) :
    collectTraceback x.unhurried items c = collectTraceback x items c := by
  induction items generalizing c with
  | nil => rfl
  | cons item items ih =>
    cases item with
    | text t =>
      rw [collectTraceback, collectTraceback]
      have hrest : collectTraceback x.unhurried items = collectTraceback x items := funext ih
      rw [hrest]
      rfl
    | _ => rfl

/-- A message is taken into account without a look at the deadline. -/
theorem handleMessage_unhurried (x : Execution) (message : Json) (c : Captured) :
    handleMessage x.unhurried message c = handleMessage x message c := by
  have htraceback : collectTraceback x.unhurried = collectTraceback x :=
    funext fun items => funext fun c => collectTraceback_unhurried x items c
  have hrich : collectRich x.unhurried = collectRich x := rfl
  have hcollect : collect x.unhurried = collect x := rfl
  have hown : handleOwn x.unhurried = handleOwn x := by
    unfold handleOwn
    rw [htraceback, hrich, hcollect]
  unfold handleMessage
  rw [hown]
  rfl

/-! ## Steps of the wait -/

theorem heedless_interrupt (k : Kernel) : Heedless (interrupt k) := by
  refine heedless_look (fun _ => rfl) fun w => ?_
  dsimp only
  split
  · refine Heedless.bind (Heedless.attempt ?_) fun r => ?_
    · exact (heedless_call _).bind fun _ => heedless_raiseKernel _
    · cases r with
      | ok _ => exact heedless_record _ _ _
      | error e =>
        dsimp only
        split
        · exact heedless_record _ _ _
        · exact heedless_fail e
  · exact heedless_record _ _ _

theorem heedless_collect (x : Execution) (step : OutputStep) (c : Captured) :
    Heedless (collect x step c) :=
  (heedless_emitAll _ _).bind fun _ => heedless_pure _

theorem heedless_saveArtifact (x : Execution) (data : Json) : Heedless (saveArtifact x data) := by
  refine heedless_look (fun _ => rfl) fun w => ?_
  cases w.handle.artifacts with
  | none => exact heedless_pure _
  | some store =>
    dsimp only
    refine Heedless.bind (heedless_change fun _ => rfl) fun _ => ?_
    split
    · exact heedless_pure _
    · exact (heedless_record _ _ _).bind fun _ => heedless_pure _
    · split
      · exact (heedless_record _ _ _).bind fun _ => heedless_pure _
      · exact heedless_fail _

theorem heedless_collectPlain (x : Execution) (data : Json) (c : Captured) :
    Heedless (collectPlain x data c) := by
  refine (heedless_ofExcept _).bind fun plain => ?_
  split
  · refine (heedless_ofExcept _).bind fun joined => ?_
    split
    · exact heedless_collect x _ c
    · exact (heedless_collect x _ c).bind fun _ => heedless_fail _
  · exact heedless_pure c

theorem heedless_collectRich (x : Execution) (content : Json) (c : Captured) :
    Heedless (collectRich x content c) := by
  refine (heedless_ofExcept _).bind fun data => ?_
  refine (heedless_saveArtifact x data).bind fun saved => ?_
  cases saved with
  | none => exact heedless_collectPlain x data c
  | some name => exact heedless_collect x _ c

theorem heedless_collectTraceback (x : Execution) (items : List Json) (c : Captured) :
    Heedless (collectTraceback x items c) := by
  induction items generalizing c with
  | nil => exact heedless_pure c
  | cons item items ih =>
    cases item with
    | text t => exact (heedless_collect x _ c).bind fun c => ih c
    | _ => exact heedless_fail _

theorem heedless_handleOwn (x : Execution) (type content : Json) (c : Captured) :
    Heedless (handleOwn x type content c) := by
  unfold handleOwn
  split
  · refine (heedless_ofExcept _).bind fun text => ?_
    split
    · exact (heedless_collect x _ c).bind fun _ => heedless_pure _
    · exact heedless_fail _
  split
  · exact (heedless_collectRich x content c).bind fun _ => heedless_pure _
  split
  · refine (heedless_ofExcept _).bind fun fault => ?_
    refine (heedless_ofExcept _).bind fun items => ?_
    exact (heedless_collectTraceback x items _).bind fun _ => heedless_pure _
  split
  · refine (heedless_ofExcept _).bind fun state => ?_
    split
    · exact (heedless_collect x _ c).bind fun _ => heedless_pure _
    · exact heedless_pure _
  · exact heedless_pure _

theorem heedless_handleMessage (x : Execution) (message : Json) (c : Captured) :
    Heedless (handleMessage x message c) := by
  refine (heedless_ofExcept _).bind fun about => ?_
  split
  · refine (heedless_ofExcept _).bind fun header => ?_
    refine (heedless_ofExcept _).bind fun type => ?_
    refine (heedless_ofExcept _).bind fun content => ?_
    exact heedless_handleOwn x type content c
  · exact heedless_pure _

theorem heedless_advance (seconds : Float) : Heedless (advance seconds) :=
  heedless_change fun _ => rfl

theorem heedless_receive (x : Execution) (p : Poll) : Heedless (receive x p) := by
  refine Heedless.bind (heedless_change fun _ => rfl) fun _ => ?_
  have hdeliver : Heedless (deliver x p.delivery) := by
    cases p.delivery with
    | message toRequest => exact heedless_pure _
    | empty => exact heedless_pure _
    | death => exact Heedless.bind (heedless_change fun _ => rfl) fun _ => heedless_pure _
    | cancel => exact Heedless.bind (heedless_change fun _ => rfl) fun _ => heedless_pure _
    | failure e =>
      rw [deliver]
      split
      · exact heedless_fail _
      · exact heedless_fail _
  cases p.advance with
  | none => exact (heedless_pure ()).bind fun _ => hdeliver
  | some seconds => exact (heedless_advance seconds).bind fun _ => hdeliver

theorem heedless_checkAlive : Heedless checkAlive := by
  refine heedless_look (fun _ => rfl) fun w => ?_
  split
  · exact heedless_pure ()
  · exact heedless_fail _

theorem heedless_makeResult (x : Execution) (c : Captured) : Heedless (makeResult x c) := by
  refine heedless_look (fun _ => rfl) fun w => ?_
  cases elapsedMilliseconds x.start w.clock with
  | ok elapsed => exact heedless_pure _
  | error fault => exact heedless_fail _

/-! ## The wait -/

/-- A turn that is not overdue begins alike. -/
theorem checkTurn_alike {t : Turn} (h : ¬ t.IsOverdue x) :
    Alike (checkTurn x.unhurried t.captured) (checkTurn x t.captured) t.world := by
  unfold Alike
  cases hcancelled : t.world.cancelled with
  | false =>
    have huncancelled : t.world.unhurried.cancelled = false := hcancelled
    have hnone : x.unhurried.deadline = none := rfl
    rw [Turn.checkTurn_of_not_isOverdue hcancelled (Turn.not_lt_of_not_isOverdue h hcancelled),
      Turn.checkTurn_of_not_isOverdue huncancelled fun s hs => by rw [hnone] at hs; cases hs]
  | true =>
    -- cancellation is looked for before the deadline
    have hunhurried : t.world.unhurried.cancelled = true := hcancelled
    rw [Turn.checkTurn_of_cancelled hcancelled, Turn.checkTurn_of_cancelled hunhurried]
    exact ((heedless_interrupt x.kernel).bind fun _ => heedless_fail _) t.world

/-- A turn that is not overdue and begins is one of a run that is not cancelled. -/
theorem of_checkTurn {t : Turn} {v : World} (h : ¬ t.IsOverdue x)
    (hturn : checkTurn x t.captured t.world = (.ok (), v)) :
    t.world.cancelled = false ∧ v = t.world := by
  have hcancelled := Turn.uncancelled_of_checkTurn hturn
  rw [Turn.checkTurn_of_not_isOverdue hcancelled (Turn.not_lt_of_not_isOverdue h hcancelled)]
    at hturn
  exact ⟨hcancelled, (Prod.mk.inj hturn).2.symm⟩

/-- A kernel that was found alive is alive, and nothing has changed. -/
theorem of_checkAlive {v : World} (h : checkAlive w = (.ok (), v)) :
    w.isAlive = true ∧ v = w := by
  unfold checkAlive at h
  rw [bind_apply, world_apply] at h
  dsimp only at h
  by_cases halive : w.isAlive = true
  · rw [if_pos halive] at h
    exact ⟨halive, (Prod.mk.inj h).2.symm⟩
  · rw [if_neg halive] at h
    cases h

/-- What is so of all turns is so of those that follow the next one. -/
theorem Turn.Next.forall_later? {P : Turn → Prop} {t u : Turn} (hnext : Turn.Next x t u)
    (h : ∀ n v, t.later? x n = some v → P v) : ∀ n v, u.later? x n = some v → P v := by
  intro n v hv
  refine h (n + 1) v ?_
  rw [Turn.later?, Turn.next?_eq_some_iff.mpr hnext]
  exact hv

/-- A silent kernel is waited for alike. -/
theorem drainSilence_alike (c : Captured) (waits : Nat)
    (h : ∀ n u, Turn.later? x n ⟨[], waits, c, w⟩ = some u → ¬ u.IsOverdue x) :
    Alike (drainSilence x.unhurried c waits) (drainSilence x c waits) w := by
  induction waits generalizing w with
  | zero =>
    refine (checkTurn_alike (h 0 _ rfl)).bind fun _ v _ => ?_
    refine Heedless.bind (heedless_advance _) (fun _ => ?_) v
    refine Heedless.bind (heedless_change fun _ => rfl) fun _ => ?_
    exact heedless_checkAlive.bind fun _ => heedless_pure c
  | succ waits ih =>
    have hfirst := h 0 _ rfl
    refine (checkTurn_alike hfirst).bind fun _ v hv => ?_
    obtain ⟨hcancelled, rfl⟩ := of_checkTurn hfirst hv
    refine (heedless_advance _ _).bind fun _ u hu => ?_
    obtain rfl := (Prod.mk.inj hu).2
    refine (heedless_checkAlive _).bind fun _ s hs => ?_
    obtain ⟨halive, rfl⟩ := of_checkAlive hs
    exact ih ((Turn.Next.wait hcancelled halive).forall_later? h)

/-- **A kernel is waited for alike** if no turn of the wait is overdue. -/
theorem drain_alike (c : Captured) (polls : List Poll)
    (h : ∀ n u, Turn.later? x n ⟨polls, x.kernel.patience, c, w⟩ = some u → ¬ u.IsOverdue x) :
    Alike (drain x.unhurried c polls) (drain x c polls) w := by
  -- the hypothesis for the rest is about its turns, which are turns of the whole wait
  induction polls generalizing c w with
  | nil => exact drainSilence_alike c x.kernel.patience h
  | cons p ps ih =>
    have hfirst := h 0 _ rfl
    refine (checkTurn_alike hfirst).bind fun _ v hv => ?_
    obtain ⟨hcancelled, rfl⟩ := of_checkTurn hfirst hv
    refine (heedless_receive x p _).bind fun message u hreceive => ?_
    cases message with
    | none =>
      refine (heedless_checkAlive _).bind fun _ s hs => ?_
      obtain ⟨halive, rfl⟩ := of_checkAlive hs
      exact ih c ((Turn.Next.none hcancelled hreceive halive).forall_later? h)
    | some message =>
      dsimp only
      rw [handleMessage_unhurried]
      refine (heedless_handleMessage x message c _).bind fun progressed s hhandle => ?_
      cases progressed with
      | idle c => exact heedless_pure c s
      | more c =>
        exact ih c ((Turn.Next.message hcancelled hreceive hhandle).forall_later? h)

end Session

end KernelJob
