import KernelJob.Proofs.Run.Account

/-! # What a run submits

Of the code that reaches the kernel every piece is the source of a unit, the units come in order,
and none comes twice. This is so on every way out of a run, whatever the kernel does, and also if
the receiver of the lines fails; a run that is broken off has only submitted less.

* **`Run.Submits`** — since an earlier world the sources of the first units were submitted.
* **`Run.steps_submits`** — the steps of a run submit no more than its units have.
* **`Run.run_submits`** — a run submits the sources of the units that it is due to execute. -/

namespace KernelJob.Run

open KernelJob.Action KernelJob.Session

variable {u v v' w : World} {due : List CodeUnit}

/-- **A world in which sources of units were submitted**: since `u` those of the first units, in
order, and nothing else. -/
def Submits (due : List CodeUnit) (u w : World) : Prop :=
  ∃ ts, ts <+: due.map CodeUnit.source ∧ w.submitted = u.submitted ++ ts

/-- The work on units submits their sources. -/
theorem Ceased.submits (h : Ceased due u w) : Submits due u w := by
  obtain ⟨ts, tail, hprefix, htail, hw⟩ := h
  exact ⟨ts, hprefix, hw.submitted htail⟩

/-- Where nothing is gathered, nothing is submitted. -/
theorem Gathered.submits (h : Gathered u [] [] w) : Submits due u w :=
  ⟨[], List.nil_prefix, h.submitted⟩

/-- What was submitted may begin earlier and end later, if nothing is gathered before and after. -/
theorem Submits.between (hu : Gathered u [] [] v) (h : Submits due v v')
    (hw : Gathered v' [] [] w) : Submits due u w := by
  obtain ⟨ts, hprefix, hsubmitted⟩ := h
  refine ⟨ts, hprefix, ?_⟩
  rw [hw.submitted, hsubmitted, hu.submitted, List.append_nil, List.append_nil]

/-- **The steps of a run submit the sources of its units**: the way to the kernel and the end of the
run submit nothing. -/
theorem steps_submits (s : Setting) (config : RunConfig) (w : World) :
    Submits (dueUnits w.files config) w (steps s config w).2 := by
  refine Ensures.after (P := Submits (dueUnits w.files config) w) ?_
  unfold steps
  refine Ensures.bind ((approach_ensures s config w).mono (fun _ _ h => h)
    fun _ _ h => h.submits) fun loaded v hv => ?_
  rcases loaded with _ | units
  · -- the run names no source
    exact hv.1.submits
  have hg := hv.gathered
  have hopen := hv.connected
  obtain ⟨rfl, -⟩ := hv
  refine (closing_ensures s (runConnected_ceases s config _ hopen)
    (runConnected_keeps s config _ hopen) hopen).mono ?_ ?_
  · rintro failed w' ⟨u, -, hu, hfinal⟩
    exact hu.submits.between hg hfinal.gathered
  · rintro e w' ⟨u, -, hu, hfinal⟩
    have hceased : Ceased (dueUnits w.files config) v u := by
      rcases hu with ⟨failed, hu⟩ | ⟨e', hu⟩
      · exact hu
      · exact hu
    exact hceased.submits.between hg hfinal.gathered

/-- **A run submits the sources of the first units that it is due to execute**, in order and nothing
else, whatever the kernel and the receiver of the lines do. -/
theorem run_submits (s : Setting) (config : RunConfig) (w : World) :
    World.submittedSince w (run s config w).2 <+: (dueUnits w.files config).map CodeUnit.source := by
  have hsteps := steps_submits s config (begun config w)
  have hdiagnosed := run_diagnosed s config w
  obtain ⟨ts, hprefix, hsubmitted⟩ := hsteps.between (Gathered.refl _) hdiagnosed.gathered
  have hsince : World.submittedSince w (run s config w).2 = ts :=
    World.submittedSince_eq hsubmitted
  rw [hsince]
  exact hprefix

end KernelJob.Run
