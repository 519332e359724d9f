import KernelJob.Proofs.Run.Account
import KernelJob.Proofs.Run.Course
import KernelJob.Proofs.Run.LetGo
import KernelJob.Proofs.Session.Cancel

/-! # Runs that are cancelled

A run may be cancelled before it begins, while its kernel gets ready, or while a unit is waited for.

* **`Run.Attended`**, **`Run.BrokenOff`** — the units of a run that is not cancelled, and of one
  that was cancelled while a unit was waited for.
* **`Run.HeedsCancel`** — what a run makes of being cancelled.
* **`Run.run_heeds_cancel`** — every run does, unless it is the receiver of its lines who cancels
  it. -/

namespace KernelJob

/-- Whether a call interrupts a kernel. -/
def Call.isInterrupt : Call → Bool
  | .interruptKernel => true
  | _ => false

namespace Run

open KernelJob.Action KernelJob.Session ReleaseStep

variable {s : Setting} {config : RunConfig} {w₀ v w : World}

/-! ## The units -/

/-- **A world in which the units of a run are attended to**: since `w₀` code was submitted and no
other call was made; the connection is the same, the kernel is still alive, and the run is not
cancelled. -/
structure Attended (w₀ w : World) : Prop where
  connection : w.handle.connection = w₀.handle.connection
  alive : StillAlive w₀ w
  uncancelled : w.cancelled = false
  calls : ∃ cs, w.calls = w₀.calls ++ cs ∧ ∀ c ∈ cs, c.source?.isSome = true

/-- **Units that were broken off**: if the run is cancelled, and its kernel was alive, then the last
call was to interrupt the kernel, if it was started here, and all others have submitted code. -/
def BrokenOff (w₀ w : World) : Prop :=
  w.cancelled = true → w₀.isAlive = true →
    ∃ cs, w.calls = w₀.calls ++ (cs ++ w₀.handle.interruptCalls) ∧
      ∀ c ∈ cs, c.source?.isSome = true

/-- Units of a run that is not cancelled are not broken off. -/
theorem Attended.brokenOff (h : Attended w₀ w) : BrokenOff w₀ w := by
  intro hc
  rw [h.uncancelled] at hc
  cases hc

/-- **A world in which something was said** and nothing else was done. -/
structure Said (w₀ w : World) : Prop where
  diagnosed : Diagnosed w₀ w
  flags : w.cancelled = w₀.cancelled ∧ w.alive = w₀.alive

/-- What is said changes nothing for the units. -/
theorem Attended.said (h : Attended w₀ v) (hw : Said v w) : Attended w₀ w := by
  refine ⟨?_, fun h₀ => ?_, hw.flags.1.trans h.uncancelled, ?_⟩
  · rw [hw.diagnosed.handle, h.connection]
  · rw [World.isAlive_congr (congrArg Handle.manager hw.diagnosed.handle) hw.flags.2]
    exact h.alive h₀
  · rw [hw.diagnosed.calls]
    exact h.calls

theorem BrokenOff.said (h : BrokenOff w₀ v) (hw : Said v w) : BrokenOff w₀ w := by
  intro hc ha
  rw [hw.diagnosed.calls]
  exact h (hw.flags.1.symm.trans hc) ha

/-- What adds at most diagnostics, and keeps what saying something keeps, is said. -/
theorem ensures_said {α : Type} {x : Action α} {E : Failure → World → Prop}
    (hs : s.sink.NeverCancels) (hd : x.Ensures w (fun _ => Diagnosed w) E)
    (hE : ∀ e w', E e w' → Diagnosed w w')
    (hx : Built s.sink { speak := true } x) :
    x.Ensures w (fun _ => Said w) (fun _ => Said w) := by
  have hkept := (keptBy_flags hs w.cancelled w.alive).mono (p := { speak := true }) (by decide)
  have hflags := (hx.keeps hkept).ensures ⟨rfl, rfl⟩
  exact (hd.and hflags).mono (fun _ _ h => ⟨h.1, h.2⟩) fun e w' h => ⟨hE e w' h.1, h.2⟩

theorem emit_said (hs : s.sink.NeverCancels) (t : Text) (w : World) :
    (emit s.sink t).Ensures w (fun _ => Said w) (fun _ => Said w) :=
  ensures_said hs (emit_ensures s t w) (fun _ _ h => h.1) (emit_built t)

theorem emitAll_said (hs : s.sink.NeverCancels) (ts : List Text) (w : World) :
    (emitAll s.sink ts).Ensures w (fun _ => Said w) (fun _ => Said w) :=
  ensures_said hs (emitAll_ensures s ts w) (fun _ _ h => h.1) (.emitAll rfl ts)

theorem diagnose_said (hs : s.sink.NeverCancels) (m : Text) (w : World) :
    (diagnose s m).Ensures w (fun _ => Said w) (fun _ => Said w) :=
  ensures_said hs ((diagnose_ensures s m w).mono (fun _ _ h => h.1) fun _ _ h => h)
    (fun _ _ h => h.1.1) (diagnose_built s m)

/-- The calls for a unit that was broken off follow those for the units before. -/
theorem Attended.heeds (h : Attended w₀ v) {unit : CodeUnit} (hw : Heeds unit v w) :
    BrokenOff w₀ w := by
  intro hc ha
  obtain ⟨cs, hcalls, hcs⟩ := h.calls
  have hsteady := hw hc (h.alive ha)
  have hmanager : v.handle.manager = w₀.handle.manager := (congrArg Handle.manager h.connection :)
  have hinterrupt := Handle.interruptCalls_congr hmanager
  refine ⟨cs ++ [.execute unit.source], ?_, ?_⟩
  · rw [hsteady.calls, hcalls, hinterrupt, List.append_assoc, List.append_assoc]
    rfl
  · rw [List.forall_mem_append]
    exact ⟨hcs, by simp [Call.source?]⟩

/-- **Executing a unit heeds cancellation**, whether its code fails or not. -/
theorem executeUnit_attended (hs : s.sink.NeverCancels) (config : RunConfig) (unit : CodeUnit)
    (hw₀ : w₀.handle.state = .connected) (h : Attended w₀ w) :
    (executeUnit s config unit).Ensures w
      (fun failed w' => if failed then BrokenOff w₀ w' else Attended w₀ w')
      (fun _ => BrokenOff w₀) := by
  unfold executeUnit
  refine Ensures.bind ((emitAll_said hs _ w).mono (fun _ _ hv => h.said hv)
    fun _ _ hv => (h.said hv).brokenOff) fun _ v hv => ?_
  have hstate : v.handle.state = .connected := (congrArg Handle.state hv.connection).trans hw₀
  rw [ensures_bind, ensures_attempt]
  refine (execute_heeds hs s.kernel config.task unit hstate hv.uncancelled).mono ?_ ?_
  · -- the unit succeeded
    rintro r v' ⟨hsteady, halive, huncancelled⟩
    obtain ⟨cs, hcalls, hcs⟩ := hv.calls
    have hadded : Attended w₀ { v' with progress := v'.progress.addResult r } := by
      refine ⟨hsteady.connection.trans hv.connection, fun ha => halive (hv.alive ha), huncancelled,
        cs ++ [.execute unit.source], ?_, ?_⟩
      · refine (World.calls_congr (w := v') rfl).trans ?_
        rw [hsteady.calls, hcalls, List.append_assoc]
      · rw [List.forall_mem_append]
        exact ⟨hcs, by simp [Call.source?]⟩
    rw [ensures_bind, addResult, ensures_change]
    dsimp only
    split
    · exact Ensures.bind ((emit_said hs _ _).mono (fun _ _ hw' => hadded.said hw')
        fun _ _ hw' => (hadded.said hw').brokenOff) fun _ _ hw' => hw'
    · exact hadded
  · intro e v' hheeds
    have hbroken : BrokenOff w₀ v' := hv.heeds hheeds
    dsimp only
    split
    · -- the failure comes with a result
      rename_i r _
      have hadded : BrokenOff w₀ { v' with progress := v'.progress.addResult r } := hbroken
      rw [ensures_bind, addResult, ensures_change]
      exact Ensures.bind ((diagnose_said hs _ _).mono (fun _ _ hw' => hadded.said hw')
        fun _ _ hw' => hadded.said hw') fun _ _ hw' => hw'
    · exact hbroken

/-- **The loop over the units heeds cancellation**: it goes on only as long as the run is not
cancelled. -/
theorem executeUnits_attended (hs : s.sink.NeverCancels) (config : RunConfig)
    (hw₀ : w₀.handle.state = .connected) (units : List CodeUnit) (h : Attended w₀ w) :
    (executeUnits s config units).Ensures w
      (fun failed w' => if failed then BrokenOff w₀ w' else Attended w₀ w')
      (fun _ => BrokenOff w₀) := by
  induction units generalizing w with
  | nil => exact h
  | cons unit units ih =>
    unfold executeUnits
    rw [ensures_bind, Ensures, checkCancelled_apply, if_neg (by rw [h.uncancelled]; decide)]
    dsimp only
    split
    · -- the unit is skipped
      rw [ensures_bind, ensures_record]
      refine ih (h.said ⟨(Diagnosed.refl w).push rfl, rfl, rfl⟩)
    · refine (executeUnit_attended hs config unit hw₀ h).bind fun failed w' hw' => ?_
      cases failed
      · exact ih hw'
      · exact hw'

/-- The part of a run with a connected kernel heeds cancellation. -/
theorem runConnected_attended (hs : s.sink.NeverCancels) (config : RunConfig)
    (units : List CodeUnit) (hw : w.handle.state = .connected) (hcancelled : w.cancelled = false) :
    (runConnected s config units).Ensures w
      (fun failed w' => if failed then BrokenOff w w' else Attended w w')
      (fun _ => BrokenOff w) := by
  have hstart : Attended w { w with state := .running } :=
    ⟨rfl, id, hcancelled, [], (World.calls_congr (w := w) rfl).trans (List.append_nil _).symm,
      fun _ hc => nomatch hc⟩
  unfold runConnected
  rw [ensures_bind, Ensures, checkCancelled_apply, if_neg (by rw [hcancelled]; decide)]
  dsimp only
  rw [ensures_bind, enter, ensures_change]
  refine Ensures.bind ((emit_said hs _ _).mono (fun _ _ hv => hstart.said hv)
    fun _ _ hv => (hstart.said hv).brokenOff) fun _ v hv => ?_
  exact executeUnits_attended hs config hw units hv

/-! ## The verdict -/

/-- A run whose steps did not fail was not cancelled. -/
theorem steps_uncancelled (hs : s.sink.NeverCancels) (config : RunConfig) (w : World) :
    (steps s config).Ensures w (fun failed w' => failed = false → w'.cancelled = false)
      (fun _ _ => True) := by
  unfold steps
  refine ((approach_ensures s config w).mono (fun _ _ h => h) fun _ _ _ => trivial).bind
    fun units v hv => ?_
  rcases units with _ | units
  · exact fun hfailed => Bool.noConfusion hfailed
  have hstate : v.handle.state = .connected := by rw [hv.2.1]; rfl
  have hconnected : (runConnected s config units).Ensures v
      (fun failed w' => failed = false → w'.cancelled = false) (fun _ _ => True) := by
    by_cases hc : v.cancelled = true
    · unfold runConnected
      rw [ensures_bind, Ensures, checkCancelled_apply, if_pos hc]
      trivial
    · refine (runConnected_attended hs config units hstate (Bool.eq_false_iff.mpr hc)).mono ?_
        fun _ _ _ => trivial
      rintro failed w' hw' rfl
      exact Attended.uncancelled hw'
  unfold closing
  rw [ensures_bind, ensures_attempt]
  refine hconnected.mono (fun failed v' hv' => ?_) fun e v' _ => ?_
  · rw [ensures_bind]
    have hkeeps := (finalize_built s).keeps (keptBy_flags hs v'.cancelled v'.alive)
    refine (hkeeps.ensures ⟨rfl, rfl⟩).mono (fun _ w' hw' hfailed => ?_) fun _ _ _ => trivial
    exact hw'.1.trans (hv' hfailed)
  · rw [ensures_bind]
    exact ensures_true _ _

/-- **A run that is reported as a success was not cancelled.** -/
theorem uncancelled_of_succeeded (hs : s.sink.NeverCancels) {report : Report}
    (h : (run s config w).1 = .ok report) (hsucceeded : report.succeeded = true) :
    (run s config w).2.cancelled = false := by
  obtain ⟨-, failed, hsettled, rfl⟩ := (ensures_iff.mp (run_ensures s config w)).1 report h
  obtain ⟨rfl, -⟩ := (finish_succeeded_iff _ failed).mp hsucceeded
  have hsteps := (ensures_iff.mp (steps_uncancelled hs config (begun config w))).1
  have hkept := run_after_steps (s := s) (w := w) ((keptBy_flags hs
    (steps s config (begun config w)).2.cancelled
    (steps s config (begun config w)).2.alive).mono (by decide)) config ⟨rfl, rfl⟩
  rcases ho : (steps s config (begun config w)).1 with e | failed
  · -- a failure of the steps would have made the run a failed one
    rw [ho] at hsettled
    exact Bool.noConfusion hsettled.1
  · rw [ho] at hsettled
    obtain rfl : false = failed := hsettled
    exact hkept.1.trans (hsteps false ho rfl)

/-! ## The events -/

/-- The rule that nothing is submitted after cancellation. -/
def obedience : EventRule := fun cancelled e => cancelled = true → e.source? = none

/-- The rule that nothing is polled. -/
def unpolled : EventRule := fun _ e => e.poll? = none

/-- The rule that nothing is polled, and the run is not cancelled. -/
def undisturbed : EventRule := fun _ e => e.poll? = none ∧ e.isCancel = false

/-- Running keeps to the rule that nothing is submitted after cancellation. -/
theorem obedience_kept (hs : s.sink.NeverCancels) (w : World) :
    KeptByRunning s.sink (Course obedience w) := by
  refine Course.keptByRunning hs ?_ ?_ ?_ ?_
  · exact fun _ _ he _ _ _ => he
  · exact fun _ _ => rfl
  · exact fun _ _ _ => rfl
  · exact fun _ hc => Bool.noConfusion hc

/-- The events of a run obey its cancellation. -/
theorem run_obedient (hs : s.sink.NeverCancels) (config : RunConfig) (w : World) :
    Course obedience w (run s config w).2 :=
  run_keeps hs (obedience_kept hs w) config w (Course.refl _ w)

/-- A run that polls has reached its kernel uncancelled. -/
theorem approach_of_poll (hs : s.sink.NeverCancels) {p : Poll}
    (hp : .poll p ∈ World.eventsSince w (run s config w).2) :
    ∃ units, (approach s config (begun config w)).1 = .ok (some units) ∧
      (approach s config (begun config w)).2.cancelled = false := by
  have hunpolled : ∀ b e, e.source? = none → e.poll? = none → e.isCancel = false → unpolled b e :=
    fun _ _ _ he _ => he
  have hkept : KeptBy s.sink { speak := true, call := true, cancel := true } (Course unpolled w) :=
    Course.keptBy hs rfl hunpolled (fun _ _ => rfl) fun hp => Bool.noConfusion hp
  have happroached := approach_keeps hkept config (begun config w) (Course.refl unpolled w)
  -- if nothing was polled by the end of the steps, nothing was polled at all
  have hnone : ¬ Course unpolled w (steps s config (begun config w)).2 := by
    intro hsteps
    obtain ⟨es, htrace, -, hfollows⟩ := run_after_steps (hkept.mono (by decide)) config hsteps
    rw [World.eventsSince_eq htrace] at hp
    obtain ⟨_, hpoll⟩ := hfollows.of_mem hp
    cases hpoll
  rw [steps_apply] at hnone
  rcases ha : approach s config (begun config w) with ⟨e | _ | units, v⟩ <;>
    rw [ha] at happroached hnone
  · exact absurd happroached hnone
  · exact absurd happroached hnone
  · refine ⟨units, rfl, Bool.eq_false_iff.mpr fun hc => hnone ?_⟩
    show Course unpolled w (closing s (runConnected s config units) v).2
    rw [closing_world, runConnected_of_cancelled config units hc]
    exact (finalize_built s).keeps (hkept.mono (by decide)) v happroached

/-- The world in which the units of a run have been dealt with. -/
def dealtWith (s : Setting) (config : RunConfig) (units : List CodeUnit) (w : World) : World :=
  (runConnected s config units (approach s config (begun config w)).2).2

/-- After its units a run is not disturbed any more. -/
theorem run_undisturbed (hs : s.sink.NeverCancels) {units : List CodeUnit}
    (h : (approach s config (begun config w)).1 = .ok (some units)) :
    Course undisturbed (dealtWith s config units w) (run s config w).2 := by
  have hkept : KeptBy s.sink { speak := true, call := true }
      (Course undisturbed (dealtWith s config units w)) :=
    Course.keptBy hs rfl (fun _ _ _ hpoll hcancel => ⟨hpoll, hcancel⟩)
      (fun hp => Bool.noConfusion hp) fun hp => Bool.noConfusion hp
  refine run_after_steps (hkept.mono (by decide)) config ?_
  rw [steps_of_approach h, closing_world]
  exact (finalize_built s).keeps hkept _ (Course.refl _ _)

/-- **A run that is cancelled after a poll is cancelled while its units are dealt with.** -/
theorem dealtWith_cancelled (hs : s.sink.NeverCancels) {units : List CodeUnit}
    (h : (approach s config (begun config w)).1 = .ok (some units))
    (hcancel : .cancel ∈ World.eventsSince w (run s config w).2) :
    (dealtWith s config units w).cancelled = true := by
  obtain ⟨es, htrace, hcancelled, -⟩ : Course obedience w (dealtWith s config units w) :=
    runConnected_keepsRunning ((obedience_kept hs w).running hs) config units _
      (approach_keeps ((obedience_kept hs w).waiting.mono (by decide)) config (begun config w)
        (Course.refl _ w))
  obtain ⟨fs, hrest, -, hfollows⟩ := run_undisturbed hs h
  have hevents : World.eventsSince w (run s config w).2 = es ++ fs := by
    refine World.eventsSince_eq (hrest.trans ?_)
    rw [← List.append_assoc, htrace]
  rw [hevents] at hcancel
  rcases List.mem_append.mp hcancel with hmem | hmem
  · have hany : es.any Event.isCancel = true := List.any_eq_true.mpr ⟨_, hmem, rfl⟩
    exact hcancelled.trans (by rw [hany, Bool.or_true])
  · obtain ⟨_, -, hf⟩ := hfollows.of_mem hmem
    cases hf

/-- **A kernel that is interrupted once** by some calls, before anything is released. -/
def InterruptedOnce (calls : List Call) : Prop :=
  ∃ cs ds, calls = cs ++ .interruptKernel :: ds ∧
    (∀ c ∈ cs, c.isInterrupt = false ∧ c.isRelease = false) ∧
    ∀ c ∈ ds, c.isInterrupt = false ∧ c.isRelease = true

/-- A call that submits code does not interrupt anything. -/
theorem isInterrupt_of_source? {c : Call} (h : c.source?.isSome = true) :
    c.isInterrupt = false := by
  cases c <;> first | rfl | cases h

/-- A call of a release does not interrupt anything. -/
theorem isInterrupt_of_isRelease {c : Call} (h : c.isRelease = true) : c.isInterrupt = false := by
  cases c <;> first | rfl | cases h

/-- Connecting does not interrupt anything. -/
theorem isInterrupt_connectCalls {directory : Option Text} :
    ∀ c ∈ connectCalls config directory, c.isInterrupt = false := by
  cases hf : config.connectionFile <;> simp [connectCalls, hf, Call.isInterrupt]

/-- The way to a kernel leaves it alive. -/
theorem approach_alive (s : Setting) (w : World) : (approach s config w).2.alive = w.alive :=
  approach_keeps (keptBy_alive rfl w.alive) config w rfl

/-- The interruption of a kernel that was started here is one call. -/
theorem interruptCalls_openHandle (hstarted : config.connectionFile = none) :
    (openHandle config).interruptCalls = [.interruptKernel] := by
  rw [Handle.interruptCalls, Handle.ownsKernel, openHandle, joinedHandle, if_pos hstarted]
  rfl

/-- The manager of a kernel that was started here is asked whether it is alive. -/
theorem findsAlive_openHandle (hstarted : config.connectionFile = none) (said : Liveness) :
    (openHandle config).findsAlive said = said.manager := by
  rw [Handle.findsAlive, openHandle, joinedHandle, if_pos hstarted]

/-- **A run that is cancelled at a poll interrupts its kernel once**, if that was started
here and is alive for its manager, and then releases it. -/
theorem run_interrupts (hs : s.sink.NeverCancels) {p : Poll}
    (hp : .poll p ∈ World.eventsSince w (run s config w).2)
    (hcancel : .cancel ∈ World.eventsSince w (run s config w).2) (halive : w.alive.manager = true)
    (hstarted : config.connectionFile = none) :
    InterruptedOnce (World.callsSince w (run s config w).2) := by
  obtain ⟨units, happroach, huncancelled⟩ := approach_of_poll hs hp
  have hcancelled := dealtWith_cancelled hs happroach hcancel
  have hend := run_diagnosed s config w
  rw [steps_of_approach happroach, closing_world] at hend
  have happroached := (ensures_iff.mp (approach_ensures s config (begun config w))).1 _ happroach
  obtain ⟨-, hhandle, -, directory, hconnect⟩ := happroached
  have hsame : (approach s config (begun config w)).2.alive = w.alive :=
    approach_alive s (begun config w)
  have hbegun : (begun config w).calls = w.calls := World.calls_congr rfl
  unfold dealtWith at hcancelled
  -- from here on only the world in which the kernel was reached matters
  generalize (approach s config (begun config w)).2 = v₁ at *
  have hopen : v₁.handle.state = .connected := by rw [hhandle]; rfl
  have hfound : v₁.isAlive = true := by
    rw [World.isAlive, hhandle, hsame, findsAlive_openHandle hstarted]
    exact halive
  have hbroken : BrokenOff v₁ (runConnected s config units v₁).2 :=
    ((runConnected_attended hs config units hopen huncancelled).mono (fun failed w' h => by
      cases failed
      · exact Attended.brokenOff h
      · exact h) fun _ _ h => h).after
  have hunderway := runConnected_keeps s config units hopen v₁ (UnderWay.refl v₁)
  generalize (runConnected s config units v₁).2 = v₂ at *
  obtain ⟨cs, hcalls, hcs⟩ := hbroken hcancelled hfound
  have hstill : v₂.handle.state ≠ .closed := by
    have hstate : v₂.handle.state = .connected :=
      (congrArg Handle.state hunderway.connection).trans hopen
    rw [hstate]
    decide
  have hfinal : Finalized s.kernel v₂ (finalize s v₂).2 := (finalize_ensures s hstill).after
  have hinterrupt : v₁.handle.interruptCalls = [.interruptKernel] := by
    rw [hhandle, interruptCalls_openHandle hstarted]
  refine ⟨connectCalls config directory ++ cs, carriedOut (v₂.handle.releasePlan s.kernel), ?_, ?_,
    ?_⟩
  · rw [World.callsSince_eq]
    rw [hend.calls, hfinal.calls, hcalls, hinterrupt, hconnect, hbegun]
    simp only [List.append_assoc, List.singleton_append]
  · rw [List.forall_mem_append]
    refine ⟨fun c hc => ?_, fun c hc => ?_⟩
    · exact ⟨isInterrupt_connectCalls c hc, isRelease_connectCalls c hc⟩
    · exact ⟨isInterrupt_of_source? (hcs c hc), Call.isRelease_of_source? (hcs c hc)⟩
  · intro c hc
    have hrelease := isRelease_carriedOut v₂.handle.isRelease_releasePlan c hc
    exact ⟨isInterrupt_of_isRelease hrelease, hrelease⟩

/-! ## A run that was cancelled before -/

/-- Saying something makes no call. -/
theorem keptBySaying_calls (hs : s.sink.NeverCancels) (cs : List Call) :
    KeptBy s.sink { speak := true } fun v => v.cancelled = true ∧ v.calls = cs where
  congr _ _ hv htrace hcancelled _ := ⟨hcancelled.trans hv.1, (World.calls_congr htrace).trans hv.2⟩
  step e he v hv := by
    cases e with
    | record r => exact ⟨hv.1, (World.calls_push_of_none v rfl).trans hv.2⟩
    | line t =>
      rw [Elementary.perform, emit_apply]
      refine ⟨?_, (World.calls_emitted v s.sink t).trans hv.2⟩
      rw [World.emitted_of_neverCancels hs]
      exact hv.1
    | call c =>
      rw [Powers.Allows] at he
      split at he <;> cases he
    | poll p => cases he
    | cancel => cases he
    | die said => cases he

/-- **A run that is cancelled before it begins** makes no call. -/
theorem run_untouched (hs : s.sink.NeverCancels) (config : RunConfig) (hw : w.cancelled = true) :
    (run s config w).2.calls = w.calls := by
  have hkept := keptBySaying_calls hs w.calls
  -- the last look at whether the run is cancelled is the one before connecting
  have happroach : (approach s config).Ensures (begun config w)
      (fun units v => units = none ∧ v.cancelled = true ∧ v.calls = w.calls)
      (fun _ v => v.cancelled = true ∧ v.calls = w.calls) := by
    have hbegun : (begun config w).cancelled = true ∧ (begun config w).calls = w.calls :=
      ⟨hw, World.calls_congr rfl⟩
    unfold approach
    split
    · exact hbegun
    split
    · exact (((diagnose_built s _).keeps hkept).ensures hbegun).bind fun _ v hv => ⟨rfl, hv⟩
    · refine (((Built.emitAll rfl _).keeps hkept).ensures hbegun).bind fun _ v hv => ?_
      refine (((loadUnits_built s config).keeps hkept).ensures hv).bind fun units v hv => ?_
      rw [ensures_bind, Ensures, checkCancelled_apply, if_pos hv.1]
      exact hv
  have hsteps : (steps s config (begun config w)).2.cancelled = true ∧
      (steps s config (begun config w)).2.calls = w.calls := by
    rw [steps_apply]
    unfold Ensures at happroach
    rcases ha : approach s config (begun config w) with ⟨e | units, v⟩ <;> rw [ha] at happroach
    · exact happroach
    · obtain ⟨rfl, hv⟩ := happroach
      exact hv
  exact (run_after_steps hkept config hsteps).2

/-! ## Cancellation as a whole -/

/-- **A run that heeds cancellation.** -/
structure HeedsCancel (s : Setting) (config : RunConfig) (w : World) : Prop where
  /-- A run that was cancelled, before it or in its course, is reported as a failure. -/
  failed : w.cancelled = true ∨ .cancel ∈ World.eventsSince w (run s config w).2 →
    (∀ report, (run s config w).1 = .ok report → report.succeeded = false) ∧
      (s.sink.NeverFails → ∃ report, (run s config w).1 = .ok report)
  /-- After the run is cancelled no code is submitted. -/
  obedient : ∀ before after,
    World.eventsSince w (run s config w).2 = before ++ .cancel :: after →
      ∀ source, .call (.execute source) ∉ after
  /-- A run that was cancelled before makes no call. -/
  untouched : w.cancelled = true → World.callsSince w (run s config w).2 = []
  /-- A run that is cancelled at a poll of a unit interrupts the kernel once, if that was started
  here and is alive for its manager, and releases it after that. -/
  interrupted : ∀ before p after,
    World.eventsSince w (run s config w).2 = before ++ .poll p :: .cancel :: after →
      w.alive.manager = true → config.connectionFile = none →
      InterruptedOnce (World.callsSince w (run s config w).2)

/-- **Every run heeds cancellation**, whenever it comes, unless it is the receiver of its lines who
cancels it. -/
theorem run_heeds_cancel (s : Setting) (config : RunConfig) (w : World) (hs : s.sink.NeverCancels) :
    HeedsCancel s config w := by
  obtain ⟨es, htrace, hcancelled, hfollows⟩ := run_obedient hs config w
  have hevents := World.eventsSince_eq htrace
  constructor
  · intro hcancel
    have hend : (run s config w).2.cancelled = true := by
      rw [hcancelled]
      rcases hcancel with hw | hmem
      · rw [hw, Bool.true_or]
      · rw [hevents] at hmem
        rw [List.any_eq_true.mpr ⟨_, hmem, rfl⟩, Bool.or_true]
    refine ⟨fun report hreport => ?_, fun hfails => ?_⟩
    · rw [Bool.eq_false_iff]
      intro hsucceeded
      rw [uncancelled_of_succeeded hs hreport hsucceeded] at hend
      cases hend
    · rcases hr : (run s config w).1 with e | report
      · exact absurd hfails ((ensures_iff.mp (run_ensures s config w)).2 e hr).2
      · exact ⟨report, rfl⟩
  · intro before after hes source hmem
    rw [hevents] at hes
    rw [hes, EventRule.follows_append] at hfollows
    obtain ⟨-, -, hafter⟩ := hfollows
    rw [Event.isCancel, Bool.or_true] at hafter
    cases hafter.of_mem_cancelled hmem rfl
  · intro hw
    rw [World.callsSince_eq]
    rw [run_untouched hs config hw, List.append_nil]
  · intro before p after hes halive hstarted
    refine run_interrupts hs (p := p) ?_ ?_ halive hstarted
    · rw [hes]
      simp
    · rw [hes]
      simp

/-- A kernel at whose first poll the run is cancelled. -/
def cancelledAtPoll : Kernel := { responses := [⟨"1", [⟨none, .cancel⟩], true, none⟩] }

/-- The world after a run of a single line on it. -/
def cancelledLine : World :=
  (run ⟨cancelledAtPoll, .ignoring⟩ oneLine { handle := { config := oneLine } }).2

/-- Such a run fails, and the kernel is interrupted once. -/
theorem run_cancelledAtPoll :
    (∃ report, (run ⟨cancelledAtPoll, .ignoring⟩ oneLine { handle := { config := oneLine } }).1 =
        .ok report ∧ report.succeeded = false) ∧
      InterruptedOnce (World.callsSince { handle := { config := oneLine } } cancelledLine) := by
  have hheeds := run_heeds_cancel ⟨cancelledAtPoll, .ignoring⟩ oneLine
    { handle := { config := oneLine } } fun _ _ => rfl
  -- sixteen events come before the poll
  have hevents : World.eventsSince { handle := { config := oneLine } } cancelledLine =
      (World.eventsSince { handle := { config := oneLine } } cancelledLine).take 16 ++
        .poll ⟨none, .cancel⟩ :: .cancel ::
          (World.eventsSince { handle := { config := oneLine } } cancelledLine).drop 18 := rfl
  refine ⟨?_, hheeds.interrupted _ _ _ hevents rfl rfl⟩
  have hcancel : Event.cancel ∈
      World.eventsSince { handle := { config := oneLine } } cancelledLine := by
    rw [hevents]
    simp
  obtain ⟨hfailed, hreported⟩ := hheeds.failed (.inr hcancel)
  obtain ⟨report, hreport⟩ := hreported fun _ _ => rfl
  exact ⟨report, hreport, hfailed report hreport⟩

end Run

end KernelJob
