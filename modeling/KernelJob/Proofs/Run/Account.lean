import KernelJob.Proofs.Run.Closing

/-! # What a report says about a run

The report of a run accounts for the units of its source: which of them were submitted, which have a
result, and whether all succeeded.

* **`Run.steps_ensures`** — the steps of a run keep a tally of the units, on every way out.
* **`Run.run_accounted`** — a run gives a report, and the report accounts for the units that it was
  due to execute. -/

namespace KernelJob.Run

open KernelJob.Action KernelJob.Session

variable {s : Setting} {config : RunConfig} {w : World}

/-! ## The steps of a run -/

/-- The part of a run with a connected kernel keeps a tally. -/
theorem runConnected_ensures (hs : s.sink.NeverFails) (config : RunConfig) (units : List CodeUnit)
    (hw : w.handle.state = .connected) :
    (runConnected s config units).Ensures w (Finished (units.filter CodeUnit.isExecutable) w)
      (fun _ => Settled (units.filter CodeUnit.isExecutable) w) := by
  unfold runConnected
  rw [ensures_bind]
  refine checkCancelled_ensures _ ?_ fun _ => ⟨_, [], [], .stopped _, Gathered.refl w⟩
  rw [ensures_bind, enter, ensures_change]
  have hrunning : Diagnosed w { w with state := .running } :=
    ⟨World.calls_congr (w := w) rfl, rfl, rfl, List.prefix_refl _⟩
  refine ((emit_ensures s _ _).of_neverFails hs).bind fun _ v hv => ?_
  have hg : Gathered w [] [] v := (hrunning.trans hv).gathered
  have hopen : v.handle.state = .connected := by rw [hv.handle, hrunning.handle, hw]
  exact (executeUnits_ensures hs config units hopen).mono
    (fun _ w' h => h.between hg (Gathered.refl w')) fun _ w' h => h.between hg (Gathered.refl w')

/-- The end of a run gathers nothing. -/
theorem Finalized.gathered {k : Kernel} {v : World} (h : Finalized k v w) : Gathered v [] [] w := by
  have hnone : (ReleaseStep.carriedOut (v.handle.releasePlan k)).filterMap Call.source? = [] :=
    source?_carriedOut v.handle k
  refine ⟨?_, by rw [h.results, List.append_nil], h.diagnostics⟩
  rw [World.submitted_eq, h.calls, List.filterMap_append, hnone, World.submitted_eq]

/-- **The steps of a run keep a tally** of the units that it is due to execute. -/
theorem steps_ensures (hs : s.sink.NeverFails) (config : RunConfig) (w : World) :
    (steps s config).Ensures w (Finished (dueUnits w.files config) w)
      (fun _ => Settled (dueUnits w.files config) w) := by
  unfold steps
  refine Ensures.bind ((approach_ensures s config w).mono (fun _ _ h => h) ?_) ?_
  · exact fun _ w' h => ⟨_, [], [], .stopped _, h⟩
  intro loaded v hv
  rcases loaded with _ | units
  · -- the run names no source
    exact ⟨⟨_, [], [], .stopped _, hv.1⟩, hv.2⟩
  have hg := hv.gathered
  have hopen := hv.connected
  obtain ⟨rfl, -⟩ := hv
  -- the tally is kept by the connected part, from the world that it starts from
  refine (closing_ensures s (runConnected_ensures hs config _ hopen)
    (runConnected_keeps s config _ hopen) hopen).mono ?_ ?_
  · rintro failed w' ⟨u, -, hu, hfinal⟩
    exact hu.between hg hfinal.gathered
  · rintro e w' ⟨u, -, hu, hfinal⟩
    have hsettled : Settled (dueUnits w.files config) v u := by
      rcases hu with ⟨failed, hu⟩ | ⟨e', hu⟩
      · exact hu.settled
      · exact hu
    exact hsettled.between hg hfinal.gathered

/-! ## The report -/

/-- **A report that accounts for the units that were due**, given the sources that were submitted.
-/
structure Accounted (due : List CodeUnit) (sources : List Text) (report : Report) : Prop where
  /-- The sources of the first units were submitted, in order. -/
  submitted : sources <+: due.map CodeUnit.source
  /-- The results are those of the first units, in order. -/
  numbers : report.results.map UnitResult.sequenceNumber =
    (due.take report.results.length).map CodeUnit.sequenceNumber
  /-- Every submitted source has a result, except perhaps the last. -/
  length : sources.length = report.results.length ∨ sources.length = report.results.length + 1
  /-- Every result except perhaps the last is a success. -/
  successes : ∀ r ∈ report.results.dropLast, r.outcome = .success
  /-- After a fault nothing else was submitted, and the run failed. -/
  fault : ∀ r, report.results.getLast? = some r → r.outcome = .fault →
    sources.length = report.results.length ∧ report.succeeded = false
  /-- A run that succeeded has a success for every unit. -/
  success : report.succeeded = true →
    report.results.length = due.length ∧ ∀ r ∈ report.results, r.outcome = .success
  /-- A run that failed says why. -/
  diagnosed : report.succeeded = false → report.diagnostics ≠ []

/-- A report is one of a success if the run did not fail and every result is a success. -/
theorem finish_succeeded_iff (p : Progress) (failed : Bool) :
    (p.finish failed).succeeded = true ↔
      failed = false ∧ ∀ r ∈ p.results, r.outcome = .success := by
  simp [Progress.finish, UnitResult.succeeded]

/-- **A tally gives a report that accounts for the units**, if a run that did not fail is complete
and one that failed has a diagnostic. -/
theorem Tally.accounted {due : List CodeUnit} {ending : Ending} {ts : List Text} {p : Progress}
    {failed : Bool} (h : Tally due ending ts p.results)
    (hcomplete : failed = false → ending = .complete)
    (hfailed : failed = true → p.diagnostics ≠ []) : Accounted due ts (p.finish failed) where
  submitted := h.submitted_prefix
  numbers := h.numbers
  length := h.submitted_length
  successes := h.success_of_mem_dropLast
  fault r hlast hr := by
    refine ⟨h.length_eq_of_fault hlast hr, ?_⟩
    rw [Bool.eq_false_iff, Ne, finish_succeeded_iff]
    rintro ⟨-, hall⟩
    rw [hall r (List.mem_of_getLast? hlast)] at hr
    cases hr
  success hsucceeded := by
    obtain ⟨hok, -⟩ := (finish_succeeded_iff p failed).mp hsucceeded
    rw [hcomplete hok] at h
    exact h.of_complete
  diagnosed hsucceeded := by
    rcases failed with _ | _
    · -- a complete run is a success
      rw [hcomplete rfl] at h
      rw [(finish_succeeded_iff p false).mpr ⟨rfl, h.of_complete.2⟩] at hsucceeded
      cases hsucceeded
    · exact hfailed rfl

/-- What is finished gives a report that accounts for the units. -/
theorem Finished.accounted {due : List CodeUnit} {w₀ : World} {failed : Bool}
    (h : Finished due w₀ failed w) (h₀ : w₀.progress.results = []) :
    Accounted due (World.submittedSince w₀ w) (w.progress.finish failed) := by
  have results : ∀ {ts rs}, Gathered w₀ ts rs w →
      World.submittedSince w₀ w = ts ∧ w.progress.results = rs := fun hg =>
    ⟨World.submittedSince_eq hg.submitted, by rw [hg.results, h₀, List.nil_append]⟩
  rcases failed with _ | _
  · obtain ⟨ts, rs, htally, hg⟩ := h
    obtain ⟨rfl, rfl⟩ := results hg
    exact htally.accounted (fun _ => rfl) fun hf => Bool.noConfusion hf
  · obtain ⟨⟨ending, ts, rs, htally, hg⟩, hdiagnosed⟩ := h
    obtain ⟨rfl, rfl⟩ := results hg
    exact htally.accounted (fun hf => Bool.noConfusion hf) fun _ => hdiagnosed

/-- **A run gives a report, and the report accounts for its units**, whatever the kernel does, if
the receiver of the lines never fails. -/
theorem run_accounted (s : Setting) (config : RunConfig) (w : World) (hs : s.sink.NeverFails) :
    ∃ report w', run s config w = (.ok report, w') ∧
      Accounted (dueUnits w.files config) (World.submittedSince w w') report := by
  have hrun := run_ensures s config w
  have hsteps := steps_ensures hs config (begun config w)
  unfold Ensures at hrun hsteps
  -- only a receiver that fails could keep the report back
  rcases hr : run s config w with ⟨e | report, w'⟩ <;> rw [hr] at hrun
  · exact absurd hs hrun.2
  obtain ⟨hd, failed, hsettled, rfl⟩ := hrun
  have hfinished : Finished (dueUnits w.files config) (begun config w) failed w' := by
    rcases ho : steps s config (begun config w) with ⟨e | outcome, v⟩ <;>
      rw [ho] at hsteps hd hsettled
    · -- the steps failed, which was diagnosed
      obtain ⟨rfl, hdiagnosed⟩ := hsettled
      exact ⟨hsteps.between (Gathered.refl _) hd.gathered, hdiagnosed⟩
    · obtain rfl : failed = outcome := hsettled
      exact hsteps.between (Gathered.refl _) hd.gathered
  exact ⟨_, w', rfl, hfinished.accounted rfl⟩

/-- Of three units whose second one fails the third has no result. -/
theorem outcomes_sameLines :
    (run ⟨secondFails, .ignoring⟩ sameLines { handle := { config := sameLines } }).1.toOption.map
      (fun report => report.results.map UnitResult.outcome) = some [.success, .fault] := by
  decide +kernel

/-- The run of such units is accounted for. -/
theorem run_accounted_sameLines :
    ∃ report w', run ⟨secondFails, .ignoring⟩ sameLines { handle := { config := sameLines } } =
        (.ok report, w') ∧
      report.results.map UnitResult.outcome = [.success, .fault] ∧
      Accounted (dueUnits {} sameLines)
        (World.submittedSince { handle := { config := sameLines } } w') report := by
  have houtcomes := outcomes_sameLines
  obtain ⟨report, w', hrun, haccounted⟩ :=
    run_accounted ⟨secondFails, .ignoring⟩ sameLines { handle := { config := sameLines } }
      fun _ _ => rfl
  rw [hrun] at houtcomes
  exact ⟨report, w', hrun, Option.some.inj houtcomes, haccounted⟩

end KernelJob.Run
