import KernelJob.Proofs.Run.Approach
import KernelJob.Proofs.Run.Work

/-! # The end of a run

On every way out a run releases its handle, settles its outcome and gives its report.

* **`Run.runConnected_keeps`** — no part of the work on the units touches the connection or begins
  a release.
* **`Run.finalize_ensures`** — the end of a run carries out the release that its handle asks for.
* **`Run.closing_ensures`** — what is done before that keeps what it ensures.
* **`Run.run_ensures`** — after its steps a run only adds diagnostics, and its report is made of
  what was gathered. -/

namespace KernelJob.Run

open KernelJob.Action KernelJob.Session ReleaseStep

/-! ## The work on the units -/

/-- Interrupting a kernel releases nothing. -/
theorem isRelease_interruptCalls (h : Handle) : ∀ c ∈ h.interruptCalls, c.isRelease = false := by
  unfold Handle.interruptCalls
  split <;> simp [Call.isRelease]

/-- **A world in which a run is under way**: since `w₀` the connection is the same, and nothing was
released. -/
structure UnderWay (w₀ w : World) : Prop where
  connection : w.handle.connection = w₀.handle.connection
  calls : ∃ cs, w.calls = w₀.calls ++ cs ∧ ∀ c ∈ cs, c.isRelease = false

namespace UnderWay

variable {w₀ v w : World}

theorem refl (w : World) : UnderWay w w :=
  ⟨rfl, [], (List.append_nil _).symm, by simp⟩

/-- The work on the units leaves a run under way. -/
theorem ended (h : UnderWay w₀ v) (hw : Ended v w) : UnderWay w₀ w := by
  obtain ⟨cs, hcalls, hcs⟩ := h.calls
  obtain ⟨tail, htail, hworked⟩ := hw
  obtain ⟨work, hcalls', hwork⟩ := hworked.calls
  refine ⟨hworked.connection.trans h.connection, cs ++ (work ++ tail), ?_, ?_⟩
  · rw [hcalls', hcalls, List.append_assoc]
  · rw [List.forall_mem_append, List.forall_mem_append]
    refine ⟨hcs, fun c hc => Call.isRelease_of_source? (hwork c hc), ?_⟩
    rcases htail with rfl | rfl
    · exact List.forall_mem_nil _
    · exact isRelease_interruptCalls v.handle

end UnderWay

variable {s : Setting} {config : RunConfig} {w₀ w : World}

/-- **The part of a run with a connected kernel** leaves the connection as it is and releases
nothing. -/
theorem runConnected_keeps (s : Setting) (config : RunConfig) (units : List CodeUnit)
    (hw₀ : w₀.handle.state = .connected) :
    Keeps (UnderWay w₀) (runConnected s config units) := by
  intro w hw
  have hconnected : w.handle.state = .connected :=
    (congrArg Handle.state hw.connection).trans hw₀
  exact hw.ended (runConnected_works s config units hconnected)

/-! ## The end of a run -/

/-- **A world in which a run has been brought to its end**: since `w₀` the release was carried out
that the handle asked for, and the handle is closed. -/
structure Finalized (k : Kernel) (w₀ w : World) : Prop where
  calls : w.calls = w₀.calls ++ carriedOut (w₀.handle.releasePlan k)
  closed : w.handle.state = .closed
  results : w.progress.results = w₀.progress.results
  diagnostics : w₀.progress.diagnostics <+: w.progress.diagnostics

/-- Diagnostics may follow the end of a run. -/
theorem Finalized.diagnosed {k : Kernel} {v : World} (h : Finalized k w₀ v) (hw : Diagnosed v w) :
    Finalized k w₀ w :=
  ⟨hw.calls.trans h.calls, by rw [hw.handle, h.closed], hw.results.trans h.results,
    h.diagnostics.trans hw.diagnostics⟩

/-- **The end of a run carries out a release**, also if the receiver fails or the user interrupts
it. -/
theorem finalize_ensures (s : Setting) (hw : w.handle.state ≠ .closed) :
    (finalize s).Ensures w (fun _ => Finalized s.kernel w) (fun _ => Finalized s.kernel w) := by
  have hstart : ({ w with state := .finalizing } : World).handle.state ≠ .closed := hw
  have released : ∀ {w'}, Releasing { w with state := .finalizing }
      (carriedOut (w.handle.releasePlan s.kernel)) w' → Finalized s.kernel w w' := fun h =>
    ⟨h.calls, h.closed, by rw [h.progress], [], by rw [h.progress, List.append_nil]⟩
  unfold finalize
  rw [ensures_bind, enter, ensures_change]
  have hclose : (close s.kernel).Ensures { w with state := .finalizing }
      (fun _ => Finalized s.kernel w) (fun _ => Finalized s.kernel w) := by
    unfold Ensures
    rw [close_apply, if_neg hstart]
    exact (release_ensures s.kernel _).mono (fun _ _ h => released h.1) fun _ _ h => released h.1
  refine hclose.bind fun messages w' h => ?_
  exact (diagnoseAll_ensures s messages w').mono (fun _ _ hd => h.diagnosed hd)
    fun _ _ hd => h.diagnosed hd.1

/-- **Closing**: what is done leaves the run under way, and then the run is brought to its end. A
failure is one of what is done, or comes from the end. -/
theorem closing_ensures {x : Action Bool} {Q : Bool → World → Prop} {E : Failure → World → Prop}
    (s : Setting) (hx : x.Ensures w Q E) (hkeeps : Keeps (UnderWay w) x)
    (hw : w.handle.state = .connected) :
    (closing s x).Ensures w
      (fun a w' => ∃ v, UnderWay w v ∧ Q a v ∧ Finalized s.kernel v w')
      (fun _ w' => ∃ v, UnderWay w v ∧ ((∃ a, Q a v) ∨ ∃ e, E e v) ∧ Finalized s.kernel v w') := by
  -- nothing on the way closes the handle, so that the end of the run has a release to carry out
  have hopen : ∀ {v}, UnderWay w v → v.handle.state ≠ .closed := by
    intro v hv hc
    have hstate : v.handle.state = .connected := (congrArg Handle.state hv.connection).trans hw
    rw [hc] at hstate
    cases hstate
  unfold closing
  rw [ensures_bind, ensures_attempt]
  refine (hx.and (hkeeps.ensures (UnderWay.refl w))).mono ?_ ?_
  · rintro a v ⟨hQ, hv⟩
    rw [ensures_bind]
    exact (finalize_ensures s (hopen hv)).mono (fun _ w' h => ⟨v, hv, hQ, h⟩)
      fun _ w' h => ⟨v, hv, .inl ⟨a, hQ⟩, h⟩
  · rintro e v ⟨hE, hv⟩
    rw [ensures_bind]
    exact (finalize_ensures s (hopen hv)).mono (fun _ w' h => ⟨v, hv, .inr ⟨e, hE⟩, h⟩)
      fun _ w' h => ⟨v, hv, .inr ⟨e, hE⟩, h⟩

/-- However closing ends, the run was under way and was then brought to its end. -/
theorem closing_after {x : Action Bool} (s : Setting) (hkeeps : Keeps (UnderWay w) x)
    (hw : w.handle.state = .connected) :
    ∃ v, UnderWay w v ∧ Finalized s.kernel v (closing s x w).2 := by
  refine Ensures.after (P := fun w' => ∃ v, UnderWay w v ∧ Finalized s.kernel v w')
    ((closing_ensures s (ensures_true x w) hkeeps hw).mono ?_ ?_)
  · exact fun _ _ ⟨v, hv, _, hfinal⟩ => ⟨v, hv, hfinal⟩
  · exact fun _ _ ⟨v, hv, _, hfinal⟩ => ⟨v, hv, hfinal⟩

/-- After closing the world is as after the end of the run, whatever was done before. -/
theorem closing_world (s : Setting) (x : Action Bool) (w : World) :
    (closing s x w).2 = (finalize s (x w).2).2 := by
  unfold closing
  rw [bind_apply, attempt_apply]
  dsimp only
  rw [bind_apply]
  rcases finalize s (x w).2 with ⟨_ | _, _⟩
  · rfl
  · rcases (x w).1 with _ | _ <;> rfl

/-- The steps of a run: the way to the kernel, and then the units, if it gets that far. -/
theorem steps_apply (s : Setting) (config : RunConfig) (w : World) :
    steps s config w =
      match approach s config w with
      | (.ok none, v) => (.ok true, v)
      | (.ok (some units), v) => closing s (runConnected s config units) v
      | (.error e, v) => (.error e, v) := by
  unfold steps
  rw [bind_apply]
  rcases approach s config w with ⟨_ | _ | _, _⟩ <;> rfl

/-- **How the outcome of the steps of a run is settled**: a failure makes the run a failed one,
with a diagnostic. -/
def SettledAs : Except Failure Bool → Bool → World → Prop
  | .ok outcome, failed, _ => failed = outcome
  | .error _, failed, w => failed = true ∧ w.progress.diagnostics ≠ []

/-- Only what was gathered matters for how an outcome is settled. -/
theorem SettledAs.congr {outcome : Except Failure Bool} {failed : Bool} {v : World}
    (h : SettledAs outcome failed v) (hw : w.progress = v.progress) :
    SettledAs outcome failed w := by
  rcases outcome with e | b
  · exact ⟨h.1, by rw [hw]; exact h.2⟩
  · exact h

/-- Logging a failure is no more than a diagnostic. -/
theorem recordUnexpected_ensures (e : Failure) (w : World) {E : Failure → World → Prop} :
    (recordUnexpected e).Ensures w (fun _ => Diagnosed w) E := by
  have hpush : Diagnosed w (w.push (.record ⟨.debug, .run, "Unexpected error during run"⟩)) :=
    (Diagnosed.refl w).push rfl
  unfold recordUnexpected
  split
  case h_8 =>
    split
    · exact hpush
    · exact Diagnosed.refl w
  all_goals exact Diagnosed.refl w

/-- After its steps a run only adds diagnostics. -/
theorem settle_ensures (s : Setting) (config : RunConfig) (w : World) :
    (settle s config).Ensures w
      (fun failed w' => Diagnosed (steps s config w).2 w' ∧
        SettledAs (steps s config w).1 failed w')
      (fun _ w' => Diagnosed (steps s config w).2 w' ∧ ¬ s.sink.NeverFails) := by
  unfold settle
  rw [ensures_bind, ensures_attempt]
  unfold Ensures
  -- only a failure of the steps needs to be diagnosed
  rcases steps s config w with ⟨e | failed, v⟩
  · refine Ensures.bind (recordUnexpected_ensures e v) fun _ v' hv' => ?_
    refine ((diagnose_ensures s _ v').mono (fun _ _ h => h) fun _ _ h => ?_).bind fun _ w' h => ?_
    · exact ⟨hv'.trans h.1.1, h.2⟩
    · exact ⟨hv'.trans h.1, rfl, h.2⟩
  · exact ⟨Diagnosed.refl v, rfl⟩

/-- **The end of a run**: its report is made of what was gathered, and only diagnostics are added.
-/
theorem run_ensures (s : Setting) (config : RunConfig) (w : World) :
    (run s config).Ensures w
      (fun report w' => Diagnosed (steps s config (begun config w)).2 w' ∧
        ∃ failed, SettledAs (steps s config (begun config w)).1 failed w' ∧
          report = w'.progress.finish failed)
      (fun _ w' => Diagnosed (steps s config (begun config w)).2 w' ∧ ¬ s.sink.NeverFails) := by
  unfold run
  rw [ensures_bind, ensures_change]
  refine (settle_ensures s config (begun config w)).bind fun failed v hv => ?_
  obtain ⟨hv, hsettled⟩ := hv
  rw [ensures_bind, ensures_world, ensures_bind, enter, ensures_change]
  -- the verdict is given to the receiver, and changes neither diagnostics nor progress
  refine ((ensures_emit (I := fun w' => Diagnosed v w' ∧ w'.progress = v.progress)
    (fun w' line h => ⟨h.1.emitted s.sink line, by simpa using h.2⟩) _ ?_).mono
    (fun _ _ h => h) fun _ _ h => ?_).bind fun _ w' h => ?_
  · exact ⟨⟨World.calls_congr rfl, rfl, rfl, List.prefix_refl _⟩, rfl⟩
  · exact ⟨hv.trans h.1.1, h.2⟩
  · obtain ⟨hd, hprogress⟩ := h
    exact ⟨hv.trans hd, failed, hsettled.congr hprogress, by rw [hprogress]⟩

/-- Whether or not a report is given, a run only adds diagnostics after its steps. -/
theorem run_diagnosed (s : Setting) (config : RunConfig) (w : World) :
    Diagnosed (steps s config (begun config w)).2 (run s config w).2 :=
  ((run_ensures s config w).mono (fun _ _ h => h.1) fun _ _ h => h.1).after

end KernelJob.Run
