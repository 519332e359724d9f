import KernelJob.Proofs.Run.Closing
import KernelJob.Proofs.Session.Built

/-! # How a run is built

The parts of a run, built from elementary steps, and what a whole run keeps. Code is only submitted
while the run is not cancelled, as long as it is not the receiver of the lines who cancels it.

* **`Running`** — an invariant of running: what the submission of code may rely on, and what it
  leads to.
* **`KeptByRunning`** — an invariant that all elementary steps keep, the submission of code in a run
  that is not cancelled among them.
* **`Run.approach_keeps`**, **`Run.finalize_built`** — the way to the kernel and the end of a run.
* **`Run.run_keeps`** — what a run keeps. -/

namespace KernelJob

open KernelJob.Action

variable {sink : Sink} {p : Powers} {I J : World → Prop}

/-- **An invariant of running**: `I` is kept by all elementary steps but the submission of code,
which leads from `J` to `I`. `J` is what `I` amounts to when a run is found not to be cancelled, and
is kept by saying something. -/
structure Running (sink : Sink) (J I : World → Prop) : Prop where
  waiting : KeptBy sink Session.waiting I
  saying : KeptBy sink { speak := true } J
  le : ∀ ⦃w : World⦄, J w → I w
  execute : ∀ ⦃w : World⦄ (source : Text), J w → I (w.push (.call (.execute source)))
  resume : ∀ ⦃w : World⦄, w.cancelled = false → I w → J w

/-- What every elementary step keeps is an invariant of running, with any receiver. -/
theorem Action.KeptBy.running (h : KeptBy sink Session.everything I) : Running sink I I where
  waiting := h.mono (by decide)
  saying := h.mono (by decide)
  le _ hw := hw
  execute w source hw := h.step (.call (.execute source)) rfl w hw
  resume _ _ hw := hw

/-- **An invariant that is kept by running**: by all elementary steps, and by the submission of code
while the run is not cancelled. -/
structure KeptByRunning (sink : Sink) (I : World → Prop) : Prop where
  waiting : KeptBy sink Session.waiting I
  execute : ∀ ⦃w : World⦄ (source : Text), w.cancelled = false → I w →
    I (w.push (.call (.execute source)))

/-- A run that is not cancelled, and an invariant. -/
def Uncancelled (I : World → Prop) (w : World) : Prop := w.cancelled = false ∧ I w

/-- With a receiver that never cancels, saying something does not cancel a run. -/
theorem Action.KeptBy.uncancelled (hs : sink.NeverCancels) (h : KeptBy sink { speak := true } I) :
    KeptBy sink { speak := true } (Uncancelled I) where
  congr _ _ hv htrace hcancelled halive :=
    ⟨hcancelled.trans hv.1, h.congr hv.2 htrace hcancelled halive⟩
  step s hs' w hw := by
    refine ⟨?_, h.step s hs' w hw.2⟩
    cases s with
    | record r => exact hw.1
    | line t =>
      rw [Elementary.perform, emit_apply, World.emitted_of_neverCancels hs]
      exact hw.1
    | call c =>
      rw [Powers.Allows] at hs'
      split at hs' <;> cases hs'
    | poll p => cases hs'
    | cancel => cases hs'
    | die said => cases hs'

/-- With a receiver that never cancels, code is submitted in runs that are not cancelled. -/
theorem KeptByRunning.running (hs : sink.NeverCancels) (h : KeptByRunning sink I) :
    Running sink (Uncancelled I) I where
  waiting := h.waiting
  saying := (h.waiting.mono (by decide)).uncancelled hs
  le _ hw := hw.2
  execute _ source hw := h.execute source hw.1 hw.2
  resume _ hc hw := ⟨hc, hw⟩

namespace Session

/-- Submitting code leads to an invariant of running. -/
theorem submit_leads (h : Running sink J I) (k : Kernel) (source : Text) :
    Leads J I (submit k source) := by
  unfold submit
  refine Leads.bind (fun w hw => h.execute source hw) fun _ => ?_
  refine Keeps.bind (keeps_change fun w hw => ?_) fun _ => ?_
  · exact h.waiting.congr hw rfl rfl rfl
  refine keeps_world.bind fun w => ?_
  dsimp only
  split
  · split
    · exact (keeps_fail _).bind fun _ => keeps_pure _
    · exact (keeps_fail _).bind fun _ => keeps_pure _
  · exact (keeps_pure ()).bind fun _ => keeps_pure _

/-- Executing a unit leads to an invariant of running. -/
theorem execute_leads (h : Running sink J I) (k : Kernel) (task : Text) (unit : CodeUnit) :
    Leads J I (execute k sink task unit) := by
  have hrun : ∀ start, Leads J I (runUnit k sink unit start) := by
    intro start
    unfold runUnit
    refine (submit_leads h k _).bind fun r => keeps_world.bind fun w => ?_
    exact (drain_keeps h.waiting _ _).bind fun _ => keeps_pure _
  unfold execute
  refine keeps_world.bind_leads h.le fun w => ?_
  split
  · refine ((Built.record _ _ _).keeps h.saying).bind_leads h.le fun _ => ?_
    have hexecuting : Keeps J (changeHandle fun h => { h with state := .executing }) :=
      keeps_change fun v hv => h.saying.congr hv rfl rfl rfl
    refine hexecuting.bind_leads h.le fun _ => ?_
    refine Leads.bind (x := attempt _) (hrun _) fun outcome => ?_
    refine Keeps.bind (keeps_change fun v hv => h.waiting.congr hv rfl rfl rfl) fun _ => ?_
    refine (keeps_ofExcept _).bind fun r => ?_
    refine ((makeResult_built _ _).keeps h.waiting).bind fun result => ?_
    split
    · exact keeps_fail _
    · exact keeps_pure _
  · exact fun w hw => h.le hw

end Session

namespace Run

open KernelJob.Session

variable {s : Setting} {config : RunConfig}

/-! ## Saying something -/

theorem enter_built (state : RunState) : Built sink p (enter state) :=
  .change ⟨fun _ => rfl, fun _ => rfl, fun _ => rfl, fun _ => rfl, fun _ => rfl, fun _ => rfl⟩

theorem emit_built (t : Text) : Built sink { speak := true } (emit sink t) :=
  .step (s := .line t) rfl

/-- **A diagnostic** is said. -/
theorem diagnose_built (s : Setting) (m : Text) :
    Built s.sink { speak := true } (diagnose s m) := by
  unfold diagnose
  refine .bind (.record _ _ _) fun _ => .bind (.change ?_) fun _ => emit_built m
  exact ⟨fun _ => rfl, fun _ => rfl, fun _ => rfl, fun _ => rfl, fun _ => rfl, fun _ => rfl⟩

theorem diagnoseAll_built (s : Setting) (ms : List Text) :
    Built s.sink { speak := true } (diagnoseAll s ms) := by
  induction ms with
  | nil => exact .pure ()
  | cons m ms ih => exact .bind (diagnose_built s m) fun _ => ih

theorem checkCancelled_built (point : CancelPoint) : Built sink p (checkCancelled point) := by
  unfold checkCancelled
  refine .look (fun _ => rfl) fun w => ?_
  split
  · exact .fail _
  · exact .pure ()

/-! ## Up to the kernel -/

theorem loadBytes_built (config : RunConfig) : Built sink p (loadBytes config) := by
  unfold loadBytes
  split
  · split
    · exact .pure _
    · exact .fail _
  · refine .bind (.record _ _ _) fun _ => .look (fun _ => rfl) fun w => ?_
    split
    · exact .pure _
    · split
      · exact .fail _
      · exact .fail _

theorem recordDocument_built (document : Document) : Built sink p (recordDocument document) := by
  unfold recordDocument
  split
  · exact .pure ()
  · exact .record _ _ _
  · exact .record _ _ _

theorem recordExtension_built (config : RunConfig) : Built sink p (recordExtension config) := by
  unfold recordExtension
  split
  · split
    · exact .record _ _ _
    · exact .pure ()
  · exact .pure ()

/-- **Loading the units** of a source says what it finds. -/
theorem loadUnits_built (s : Setting) (config : RunConfig) :
    Built s.sink { speak := true } (loadUnits s config) := by
  unfold loadUnits
  refine .bind (recordExtension_built config) fun _ => ?_
  refine .bind (loadBytes_built config) fun bytes => .bind (emit_built _) fun _ => ?_
  split
  · exact .fail _
  · exact .bind (recordDocument_built _) fun _ => .bind (.record _ _ _) fun _ => .pure _

/-- **What the way to a connected kernel keeps.** -/
theorem approach_keeps (h : KeptBy s.sink { speak := true, call := true, cancel := true } I)
    (config : RunConfig) : Keeps I (approach s config) := by
  have hsay := h.mono (p := { speak := true }) (by decide)
  unfold approach
  split
  · exact keeps_fail _
  split
  · exact ((diagnose_built s _).keeps hsay).bind fun _ => keeps_pure _
  · refine ((Built.emitAll rfl _).keeps hsay).bind fun _ => ?_
    refine ((loadUnits_built s config).keeps hsay).bind fun units => ?_
    refine ((checkCancelled_built _).keeps hsay).bind fun _ => ?_
    refine ((enter_built _).keeps hsay).bind fun _ => ?_
    exact (connect_keeps (h.mono (by decide)) _ config).bind fun _ => keeps_pure _

/-! ## The units -/

/-- A run that is cancelled does not get past the next look at that. -/
theorem checkCancelled_apply (point : CancelPoint) (w : World) :
    checkCancelled point w = (if w.cancelled then .error (.cancelled point) else .ok (), w) := by
  unfold checkCancelled
  rw [bind_apply, world_apply]
  dsimp only
  split <;> rfl

/-- A run that was cancelled while its kernel was started does not work on its units. -/
theorem runConnected_of_cancelled (config : RunConfig) (units : List CodeUnit) {w : World}
    (hw : w.cancelled = true) :
    runConnected s config units w = (.error (.cancelled .whileStarting), w) := by
  rw [runConnected, bind_apply, checkCancelled_apply, if_pos hw]

/-- What follows a look at whether the run is cancelled begins uncancelled. -/
theorem checkCancelled_bind_keeps (h : Running sink J I) {α : Type} (point : CancelPoint)
    {f : Unit → Action α} (hf : Leads J I (f ())) : Keeps I (checkCancelled point >>= f) := by
  intro w hw
  rw [bind_apply, checkCancelled_apply]
  by_cases hc : w.cancelled = true
  · rw [if_pos hc]
    exact hw
  · rw [if_neg hc]
    exact hf w (h.resume (Bool.eq_false_iff.mpr hc) hw)

theorem executeUnit_leads (h : Running s.sink J I) (config : RunConfig) (unit : CodeUnit) :
    Leads J I (executeUnit s config unit) := by
  have hsay := h.waiting.mono (p := { speak := true }) (by decide)
  have hadd : ∀ r, Keeps I (addResult r) := fun r =>
    keeps_change fun _ hw => hsay.congr hw rfl rfl rfl
  unfold executeUnit
  refine ((Built.emitAll rfl _).keeps h.saying).bind_leads h.le fun _ => ?_
  refine Leads.bind (x := attempt _) (execute_leads h _ _ unit) fun outcome => ?_
  split
  · refine (hadd _).bind fun _ => ?_
    split
    · exact ((emit_built _).keeps hsay).bind fun _ => keeps_pure false
    · exact keeps_pure false
  · split
    · refine (hadd _).bind fun _ => ?_
      exact ((diagnose_built s _).keeps hsay).bind fun _ => keeps_pure true
    · exact keeps_fail _

/-- The loop over the units looks before each of them whether the run is cancelled. -/
theorem executeUnits_keepsRunning (h : Running s.sink J I) (config : RunConfig)
    (units : List CodeUnit) : Keeps I (executeUnits s config units) := by
  induction units with
  | nil => exact keeps_pure false
  | cons unit units ih =>
    unfold executeUnits
    refine checkCancelled_bind_keeps h _ ?_
    split
    · -- the unit is skipped
      exact fun w hw => (((Built.record _ _ _).keeps h.waiting).bind fun _ => ih) w (h.le hw)
    · refine (executeUnit_leads h config unit).bind fun failed => ?_
      split
      · exact keeps_pure true
      · exact ih

/-- **What the work on the units keeps.** -/
theorem runConnected_keepsRunning (h : Running s.sink J I) (config : RunConfig)
    (units : List CodeUnit) : Keeps I (runConnected s config units) := by
  have hsay := h.waiting.mono (p := { speak := true }) (by decide)
  unfold runConnected
  refine ((checkCancelled_built _).keeps hsay).bind fun _ => ?_
  refine ((enter_built _).keeps hsay).bind fun _ => ((emit_built _).keeps hsay).bind fun _ => ?_
  exact executeUnits_keepsRunning h config units

/-! ## The end of a run -/

/-- **The end of a run** makes calls, and says what went wrong in them. -/
theorem finalize_built (s : Setting) :
    Built s.sink { speak := true, call := true } (finalize s) := by
  unfold finalize
  refine .bind (enter_built _) fun _ => .bind ((close_built _).mono (by decide)) fun messages => ?_
  exact (diagnoseAll_built s messages).mono (by decide)

theorem recordUnexpected_built (e : Failure) : Built sink p (recordUnexpected e) := by
  unfold recordUnexpected
  split
  case h_8 =>
    split
    · exact .record _ _ _
    · exact .pure ()
  all_goals exact .pure ()

/-- **What a run keeps after its steps**: what saying something keeps. -/
theorem run_after_steps (h : KeptBy s.sink { speak := true } I) (config : RunConfig) {w : World}
    (hw : I (steps s config (begun config w)).2) : I (run s config w).2 := by
  have hsettle : Leads (fun v => v = begun config w) I (settle s config) := by
    unfold settle
    refine Leads.bind (x := attempt _) ?_ fun outcome => ?_
    · rintro _ rfl
      exact hw
    · split
      · exact keeps_pure _
      · refine ((recordUnexpected_built _).keeps h).bind fun _ => ?_
        exact ((diagnose_built s _).keeps h).bind fun _ => keeps_pure true
  have hrun : Leads (fun v => v = begun config w) I (do
      let failed ← settle s config
      let w ← world
      let report := w.progress.finish failed
      enter .done
      emit s.sink (verdictLine config report)
      return report) := by
    refine hsettle.bind fun failed => keeps_world.bind fun v => ?_
    refine ((enter_built _).keeps h).bind fun _ => ((emit_built _).keeps h).bind fun _ => ?_
    exact keeps_pure _
  exact hrun _ rfl

/-- **What a run keeps.** -/
theorem run_keeps (hs : s.sink.NeverCancels) (h : KeptByRunning s.sink I) (config : RunConfig) :
    Keeps I (run s config) := by
  intro w hw
  refine run_after_steps (h.waiting.mono (by decide)) config ?_
  have hsteps : Keeps I (steps s config) := by
    unfold steps
    refine (approach_keeps (h.waiting.mono (by decide)) config).bind fun units => ?_
    split
    · exact keeps_pure true
    · unfold closing
      refine (runConnected_keepsRunning (h.running hs) config _).attempt.bind fun outcome => ?_
      refine ((finalize_built s).keeps (h.waiting.mono (by decide))).bind fun _ => ?_
      exact keeps_ofExcept _
  exact hsteps _ (h.waiting.congr hw rfl rfl rfl)

end Run

end KernelJob
