import KernelJob.Proofs.Run.Approach
import KernelJob.Proofs.Run.Stored
import KernelJob.Proofs.Session.CleanUnit
import KernelJob.Proofs.Source.Clean

/-! # Clean runs

A run of a clean kernel whose lines are printed always ends with a report, and the report is clean.
Lines of the source that cannot be printed end it, too: the failure becomes a diagnostic in clean
words, and diagnostics and the verdict are printed.

* **`RunConfig.Clean`** — the names and the label of a configuration are clean.
* **`Run.clean_diagnosis`** — what is said of a clean failure is clean.
* **`Run.run_reports`** — the run ends with a clean report. -/

namespace KernelJob

open KernelJob.Action

/-- The names and the label of a run are clean. -/
structure RunConfig.Clean (c : RunConfig) : Prop where
  kernel : c.kernel.Clean
  serverName : c.serverName.Clean
  task : c.task.Clean

/-- The report of what was gathered clean is clean. -/
theorem Progress.Clean.finish {p : Progress} (h : p.Clean) (failed : Bool) :
    ∀ t ∈ (p.finish failed).texts, t.Clean := by
  have hresults : ∀ t ∈ p.results.flatMap UnitResult.texts, t.Clean := by
    intro t ht
    obtain ⟨r, hr, htr⟩ := List.mem_flatMap.mp ht
    have hclean := h.results r hr
    simp only [UnitResult.texts, List.mem_cons, List.not_mem_nil, or_false] at htr
    rcases htr with rfl | rfl
    · exact hclean.output
    · exact hclean.error
  simp only [Report.texts, Progress.finish, List.forall_mem_append, List.forall_mem_cons,
    List.not_mem_nil, false_implies, implies_true, and_true]
  exact ⟨⟨hresults, h.diagnostics⟩, h.kernel, h.serverName, h.task⟩

namespace Run

variable {s : Setting} {config : RunConfig} {w w₀ : World}

/-- A world that differs from a clean one in lines and log records only is clean. -/
theorem Quiet.clean (h : Quiet w₀ w) (hw : w₀.Clean) : w.Clean :=
  ⟨by rw [h.handle]; exact hw.kernel, by rw [h.progress]; exact hw.progress⟩

/-! ## Diagnostics -/

section

-- neither diagnostics nor results can fail, so that any failure may be promised
variable {E : Failure → World → Prop}

/-- A clean diagnostic is taken down and printed. -/
theorem diagnose_clean (hs : s.sink.Prints) {message : Text} (hm : message.Clean) (hw : w.Clean) :
    (diagnose s message).Ensures w (fun _ => World.Clean) E := by
  unfold diagnose
  rw [ensures_bind, ensures_record, ensures_bind, ensures_change]
  refine emit_taken hs hm ⟨hw.kernel, hw.progress.kernel, hw.progress.serverName,
    hw.progress.task, hw.progress.results, ?_⟩
  exact List.forall_mem_append.mpr ⟨hw.progress.diagnostics, List.forall_mem_singleton.mpr hm⟩

theorem diagnoseAll_clean (hs : s.sink.Prints) {messages : List Text}
    (hms : ∀ m ∈ messages, m.Clean) (hw : w.Clean) :
    (diagnoseAll s messages).Ensures w (fun _ => World.Clean) E := by
  induction messages generalizing w with
  | nil => exact hw
  | cons m ms ih =>
    obtain ⟨hm, hms⟩ := List.forall_mem_cons.mp hms
    exact (diagnose_clean hs hm hw).bind fun _ _ hw => ih hms hw

/-- A clean result is gathered. -/
theorem addResult_clean {r : UnitResult} (hr : r.Clean) (hw : w.Clean) :
    (addResult r).Ensures w (fun _ => World.Clean) E := by
  refine ⟨hw.kernel, hw.progress.kernel, hw.progress.serverName, hw.progress.task, ?_,
    hw.progress.diagnostics⟩
  exact List.forall_mem_append.mpr ⟨hw.progress.results, List.forall_mem_singleton.mpr hr⟩

end

theorem checkCancelled_clean (point : CancelPoint) (hw : w.Clean) :
    (checkCancelled point).Ensures w (fun _ => World.Clean) Failure.CleanIn := by
  unfold checkCancelled
  rw [ensures_bind, ensures_world]
  split
  · exact ⟨.of_message point.clean_message rfl, hw⟩
  · exact hw

/-! ## The source -/

/-- A source that cannot be read is refused in clean words. -/
theorem loadBytes_clean (config : RunConfig) (hw : w.Clean) :
    (loadBytes config).Ensures w (fun _ => World.Clean) Failure.CleanIn := by
  unfold loadBytes
  split
  · split
    · exact hw
    · rename_i fault _
      exact ⟨.of_message fault.clean_message rfl, hw⟩
  · rw [ensures_bind, ensures_record, ensures_bind, ensures_world]
    split
    · exact ⟨hw.kernel, hw.progress⟩
    · rename_i fault _
      split
      · exact ⟨.of_message fault.clean_message rfl, hw.kernel, hw.progress⟩
      · exact ⟨.of_message fault.clean_message rfl, hw.kernel, hw.progress⟩

/-- So is a source that is no document of its format. -/
theorem loadUnits_clean (hs : s.sink.Prints) (config : RunConfig) (hw : w.Clean) :
    (loadUnits s config).Ensures w (fun _ => World.Clean) Failure.CleanIn := by
  unfold loadUnits
  refine (recordExtension_quiet config (Quiet.refl w)).bind fun _ w₁ h₁ => ?_
  refine (loadBytes_clean config (h₁.clean hw)).bind fun bytes w₂ h₂ => ?_
  refine (emit_clean hs _ h₂).bind fun _ w₃ h₃ => ?_
  have hread := Document.yields_read config.effectiveFormat bytes
  cases hdocument : Document.read config.effectiveFormat bytes with
  | error fault =>
    rw [hdocument] at hread
    exact ⟨.of_message hread rfl, h₃⟩
  | ok document =>
    refine (recordDocument_quiet document (Quiet.refl w₃)).bind fun _ w₄ h₄ => ?_
    have hclean := h₄.clean h₃
    exact ⟨hclean.kernel, hclean.progress⟩

/-! ## Units -/

/-- A unit is executed cleanly: its result and its diagnostic are clean. -/
theorem executeUnit_clean (hk : s.kernel.Clean) (hs : s.sink.Prints) (hc : config.kernel.Clean)
    (unit : CodeUnit) (hw : w.Clean) :
    (executeUnit s config unit).Ensures w (fun _ => World.Clean) Failure.CleanIn := by
  unfold executeUnit
  refine (emitAll_clean hs _ hw).bind fun _ w hw => ?_
  rw [ensures_bind, ensures_attempt]
  refine (Session.execute_clean hk hs config.task unit hw).mono ?_ ?_
  · rintro r w' ⟨hr, hw'⟩
    refine (addResult_clean hr hw').bind fun _ w'' hw'' => ?_
    split
    · exact (emit_clean hs _ hw'').bind fun _ _ hw => hw
    · exact hw''
  · intro e w' he
    dsimp only
    -- a failure that comes with a result is one of the unit; any other ends the run
    split
    · rename_i r hr
      refine (addResult_clean (he.1.result r hr) he.2).bind fun _ w'' hw'' => ?_
      have hm : (faultMessage config unit.sequenceNumber e).Clean := by
        simp [faultMessage, hc, he.1.message]
      exact (diagnose_clean hs hm hw'').bind fun _ _ hw => hw
    · exact he

theorem executeUnits_clean (hk : s.kernel.Clean) (hs : s.sink.Prints) (hc : config.kernel.Clean)
    (units : List CodeUnit) (hw : w.Clean) :
    (executeUnits s config units).Ensures w (fun _ => World.Clean) Failure.CleanIn := by
  induction units generalizing w with
  | nil => exact hw
  | cons unit units ih =>
    rw [executeUnits]
    refine (checkCancelled_clean _ hw).bind fun _ w hw => ?_
    split
    · rw [ensures_bind, ensures_record]
      exact ih ⟨hw.kernel, hw.progress⟩
    · refine (executeUnit_clean hk hs hc unit hw).bind fun failed w hw => ?_
      split
      · exact hw
      · exact ih hw

/-! ## The run -/

theorem runConnected_clean (hk : s.kernel.Clean) (hs : s.sink.Prints) (hc : config.kernel.Clean)
    (units : List CodeUnit) (hw : w.Clean) :
    (runConnected s config units).Ensures w (fun _ => World.Clean) Failure.CleanIn := by
  unfold runConnected
  refine (checkCancelled_clean _ hw).bind fun _ w hw => ?_
  have hentered : World.Clean { w with state := .running } := ⟨hw.kernel, hw.progress⟩
  exact (emit_clean hs _ hentered).bind fun _ _ hw => executeUnits_clean hk hs hc units hw

theorem finalize_clean (hk : s.kernel.Clean) (hs : s.sink.Prints) (hw : w.Clean) :
    (finalize s).Ensures w (fun _ => World.Clean) Failure.CleanIn := by
  have hentered : World.Clean { w with state := .finalizing } := ⟨hw.kernel, hw.progress⟩
  refine (Session.close_clean hk hentered).bind fun messages w hw => ?_
  exact diagnoseAll_clean hs hw.1 hw.2

theorem closing_clean (hk : s.kernel.Clean) (hs : s.sink.Prints) {x : Action Bool}
    (hx : x.Ensures w (fun _ => World.Clean) Failure.CleanIn) :
    (closing s x).Ensures w (fun _ => World.Clean) Failure.CleanIn := by
  unfold closing
  rw [ensures_bind, ensures_attempt]
  refine hx.mono ?_ ?_
  · exact fun _ _ hw => (finalize_clean hk hs hw).bind fun _ _ hw => hw
  · exact fun e _ he => (finalize_clean hk hs he.2).bind fun _ _ hw => ⟨he.1, hw⟩

theorem approach_clean (hk : s.kernel.Clean) (hs : s.sink.Prints) (hc : config.kernel.Clean)
    (hw : w.Clean) : (approach s config).Ensures w (fun _ => World.Clean) Failure.CleanIn := by
  unfold approach
  split
  · rename_i fault _
    exact ⟨.of_message fault.clean_message rfl, hw⟩
  split
  · have hm : emptyPathMessage.Clean := Text.clean_ofString _
    exact (diagnose_clean hs hm hw).bind fun _ _ hw => hw
  · refine (emitAll_clean hs _ hw).bind fun _ w hw => ?_
    refine (loadUnits_clean hs config hw).bind fun units w hw => ?_
    refine (checkCancelled_clean _ hw).bind fun _ w hw => ?_
    have hentered : World.Clean { w with state := .connecting } := ⟨hw.kernel, hw.progress⟩
    exact (Session.connect_clean hk hc hentered).bind fun _ _ hw => hw

/-- The steps of a run end well or in a clean failure. -/
theorem steps_clean (hk : s.kernel.Clean) (hs : s.sink.Prints) (hc : config.kernel.Clean)
    (hw : w.Clean) : (steps s config).Ensures w (fun _ => World.Clean) Failure.CleanIn := by
  unfold steps
  refine (approach_clean hk hs hc hw).bind fun units? w hw => ?_
  cases units? with
  | none => exact hw
  | some units => exact closing_clean hk hs (runConnected_clean hk hs hc units hw)

/-- The name of the kind of a failure is clean. -/
theorem clean_name (e : Failure) : e.name.Clean := by
  have hmisfit (m : Misfit) : (Failure.misfitName m).Clean := by
    unfold Failure.misfitName
    split <;> exact Text.clean_ofString _
  have hfile (f : FileFault) : (Failure.fileName f).Clean := by
    unfold Failure.fileName
    split <;> exact Text.clean_ofString _
  unfold Failure.name
  split
  case h_4 b => cases b <;> exact Text.clean_ofString _
  case h_6 m => exact hmisfit m
  case h_13 error => cases error.kind <;> exact Text.clean_ofString _
  case h_14 fault => exact hfile fault
  case h_17 fault => exact hfile fault
  case h_18 fault => cases fault <;> exact Text.clean_ofString _
  case h_20 m => exact hmisfit m
  case h_21 m => exact hmisfit m
  all_goals exact Text.clean_ofString _

/-- What is said of a clean failure that ended a run is clean. -/
theorem clean_diagnosis (hc : config.kernel.Clean) {e : Failure} (he : e.Clean) :
    (diagnosis config e).Clean := by
  have hmessage := he.message
  unfold diagnosis
  split
  · exact Text.clean_append.mpr ⟨Text.clean_ofString _, hmessage⟩
  · exact Text.clean_append.mpr ⟨Text.clean_ofString _, hmessage⟩
  · exact Text.clean_append.mpr ⟨Text.clean_ofString _, hmessage⟩
  · exact hmessage
  · rename_i fault
    have hfault : fault.message.Clean := hmessage
    simp [hc, hfault]
  · exact Text.clean_append.mpr ⟨Text.clean_ofString _, hmessage⟩
  · exact Text.clean_append.mpr ⟨Text.clean_ofString _, hmessage⟩
  · split
    · simp [clean_name, hmessage]
    split
    · exact Text.clean_ofString _
    · exact Text.clean_append.mpr ⟨Text.clean_ofString _, hmessage⟩

/-- The verdict on a run is clean. -/
theorem clean_verdictLine (hc : config.Clean) (report : Report) :
    (verdictLine config report).Clean := by
  have hverdict : report.verdict.Clean := by
    unfold Report.verdict
    split <;> exact Text.clean_ofString _
  have hname : config.displayName.Clean := by
    unfold RunConfig.displayName
    split
    · exact hc.kernel
    · exact hc.serverName
  simp [verdictLine, hverdict, hname, hc.kernel]

/-- **A run ends with a clean report**, whatever happens in it. -/
theorem run_reports (hk : s.kernel.Clean) (hs : s.sink.Prints) (hc : config.Clean)
    (hw : w.handle.config.kernel.Clean) :
    (run s config).Ensures w (fun report _ => ∀ t ∈ report.texts, t.Clean) fun _ _ => False := by
  have hbegun : (begun config w).Clean :=
    ⟨hw, hc.kernel, hc.serverName, hc.task, List.forall_mem_nil _, List.forall_mem_nil _⟩
  have hsettle : (settle s config).Ensures (begun config w) (fun _ => World.Clean)
      fun _ _ => False := by
    unfold settle
    rw [ensures_bind, ensures_attempt]
    refine (steps_clean hk hs hc.kernel hbegun).mono (fun _ _ hw => hw) ?_
    intro e w' he
    have hrecorded : (recordUnexpected e).Ensures w' (fun _ => World.Clean) fun _ _ => False := by
      unfold recordUnexpected
      split
      all_goals try exact he.2
      split
      · exact ⟨he.2.kernel, he.2.progress⟩
      · exact he.2
    refine hrecorded.bind fun _ w'' hw'' => ?_
    exact (diagnose_clean hs (clean_diagnosis hc.kernel he.1) hw'').bind fun _ _ hw => hw
  unfold run
  rw [ensures_bind, ensures_change]
  refine hsettle.bind fun failed w' hw' => ?_
  rw [ensures_bind, ensures_world]
  show (do
    enter .done
    emit s.sink (verdictLine config (w'.progress.finish failed))
    return w'.progress.finish failed).Ensures _ _ _
  have hentered : World.Clean { w' with state := .done } := ⟨hw'.kernel, hw'.progress⟩
  exact (emit_taken hs (clean_verdictLine hc _) hentered).bind fun _ _ _ =>
    hw'.progress.finish failed

end Run

end KernelJob
