import KernelJob.Proofs.Run.Units

/-! # The calls for the units

With a connected kernel a run submits the code of one unit after the other. Other calls are only
made when it gives up a unit: it may then interrupt the kernel, and no code is submitted any more.

* **`Run.Submitted`** — since an earlier world some sources were submitted, and some calls followed.
* **`Run.Ceased`** — the sources are those of the first units, and the calls that followed are at
  most one attempt to interrupt the kernel.
* **`Run.executeUnits_ceases`**, **`Run.runConnected_ceases`** — the work on the units ends so,
  whatever the kernel and the receiver of the lines do.
* **`Run.Worked`**, **`Run.Ended`**, **`Run.runConnected_works`** — the same without saying which
  sources they were. -/

namespace KernelJob.Run

open KernelJob.Action KernelJob.Session

/-- **A world in which sources were submitted**: since `w₀` those in `ts` were, one by one, and then
the calls `tail` were made. The connection is the same. -/
structure Submitted (w₀ : World) (ts : List Text) (tail : List Call) (w : World) : Prop where
  connection : w.handle.connection = w₀.handle.connection
  calls : w.calls = w₀.calls ++ (ts.map .execute ++ tail)

/-- **A world in which the work on units has ceased**: the sources of the first of them were
submitted, in order, and at most one attempt to interrupt the kernel came after that. -/
def Ceased (due : List CodeUnit) (w₀ w : World) : Prop :=
  ∃ ts tail, ts <+: due.map CodeUnit.source ∧ (tail = [] ∨ tail = w₀.handle.interruptCalls) ∧
    Submitted w₀ ts tail w

/-- **A world in which units were worked on**: since `w₀` code was submitted, and then the calls
`tail` were made. The connection is the same. -/
structure Worked (w₀ : World) (tail : List Call) (w : World) : Prop where
  connection : w.handle.connection = w₀.handle.connection
  calls : ∃ work, w.calls = w₀.calls ++ (work ++ tail) ∧ ∀ c ∈ work, c.source?.isSome = true

/-- **A world in which the work on units has ended**: at most one attempt to interrupt the kernel
came after it. -/
def Ended (w₀ w : World) : Prop :=
  ∃ tail, (tail = [] ∨ tail = w₀.handle.interruptCalls) ∧ Worked w₀ tail w

variable {s : Setting} {config : RunConfig} {u v w : World} {ts ts' : List Text} {tail : List Call}
  {due : List CodeUnit}

/-- The handle keeps the manager that it has. -/
theorem Worked.manager (h : Worked u tail v) : v.handle.manager = u.handle.manager :=
  (congrArg Handle.manager h.connection :)

/-! ## Submitted sources -/

namespace Submitted

/-- A world that is as before but for its state has made no call. -/
theorem start (w : World) (state : RunState) : Submitted w [] [] { w with state := state } :=
  ⟨rfl, (World.calls_congr (w := w) rfl).trans (List.append_nil _).symm⟩

theorem refl (w : World) : Submitted w [] [] w := start w w.state

/-- Diagnostics are no calls. -/
theorem diagnosed (h : Submitted u ts tail v) (hw : Diagnosed v w) : Submitted u ts tail w :=
  ⟨by rw [hw.handle, h.connection], by rw [hw.calls, h.calls]⟩

/-- A result is no call. -/
theorem addResult (h : Submitted u ts tail v) (r : UnitResult) :
    Submitted u ts tail { v with progress := v.progress.addResult r } :=
  ⟨h.connection, h.calls⟩

/-- More may be submitted as long as nothing else was called. -/
theorem trans (h : Submitted u ts [] v) (h' : Submitted v ts' tail w) :
    Submitted u (ts ++ ts') tail w := by
  refine ⟨h'.connection.trans h.connection, ?_⟩
  rw [h'.calls, h.calls, List.map_append, List.append_nil]
  simp only [List.append_assoc]

/-- The work on a unit submits its source, and the calls that are made when it is given up
follow. -/
theorem of_steady {source : Text} (h : Steady v (.execute source :: tail) w) :
    Submitted v [source] tail w :=
  ⟨h.connection, h.calls⟩

/-- The handle stays in the state in which it is. -/
theorem handleState (h : Submitted u ts tail v) : v.handle.state = u.handle.state :=
  (congrArg Handle.state h.connection :)

/-- What was submitted last are the sources, since interrupting a kernel submits nothing. -/
theorem submitted (h : Submitted u ts tail w) (htail : tail = [] ∨ tail = u.handle.interruptCalls) :
    w.submitted = u.submitted ++ ts := by
  have hnone : tail.filterMap Call.source? = [] := by
    rcases htail with rfl | rfl
    · rfl
    · unfold Handle.interruptCalls
      split
      · rfl
      · rfl
  have hsources : (ts.map Call.execute).filterMap Call.source? = ts := by
    rw [List.filterMap_map]
    exact List.filterMap_some
  rw [World.submitted_eq, h.calls, List.filterMap_append, List.filterMap_append, hsources, hnone,
    List.append_nil, World.submitted_eq]

/-- Sources are code. -/
theorem worked (h : Submitted u ts tail w) : Worked u tail w := by
  refine ⟨h.connection, ts.map .execute, h.calls, ?_⟩
  intro c hc
  obtain ⟨source, -, rfl⟩ := List.mem_map.mp hc
  rfl

end Submitted

namespace Ceased

/-- Work that has not begun has ceased. -/
theorem none (h : Submitted u [] [] v) : Ceased due u v :=
  ⟨[], [], List.nil_prefix, .inl rfl, h⟩

/-- The work on a unit may cease with it. -/
theorem first {unit : CodeUnit} (h : Submitted u [unit.source] tail v)
    (htail : tail = [] ∨ tail = u.handle.interruptCalls) : Ceased (unit :: due) u v :=
  ⟨_, tail, List.prefix_append [unit.source] _, htail, h⟩

/-- Where nothing was submitted before, it ceases as the work does that follows. -/
theorem between (h : Submitted u [] [] v) (h' : Ceased due v w) : Ceased due u w := by
  obtain ⟨ts, tail, hprefix, htail, hw⟩ := h'
  rw [Handle.interruptCalls_congr h.worked.manager] at htail
  exact ⟨ts, tail, hprefix, htail, h.trans hw⟩

/-- A unit comes before the units on which the work goes on. -/
theorem after {unit : CodeUnit} (h : Submitted u [unit.source] [] v) (h' : Ceased due v w) :
    Ceased (unit :: due) u w := by
  obtain ⟨ts, tail, hprefix, htail, hw⟩ := h'
  rw [Handle.interruptCalls_congr h.worked.manager] at htail
  exact ⟨_, tail, List.cons_prefix_cons.mpr ⟨rfl, hprefix⟩, htail, h.trans hw⟩

/-- Diagnostics may follow. -/
theorem diagnosed (h : Ceased due u v) (hw : Diagnosed v w) : Ceased due u w := by
  obtain ⟨ts, tail, hprefix, htail, hv⟩ := h
  exact ⟨ts, tail, hprefix, htail, hv.diagnosed hw⟩

/-- A result may follow. -/
theorem addResult (h : Ceased due u v) (r : UnitResult) :
    Ceased due u { v with progress := v.progress.addResult r } := by
  obtain ⟨ts, tail, hprefix, htail, hv⟩ := h
  exact ⟨ts, tail, hprefix, htail, hv.addResult r⟩

/-- Work that has ceased has ended. -/
theorem ended (h : Ceased due u w) : Ended u w := by
  obtain ⟨ts, tail, -, htail, hw⟩ := h
  exact ⟨tail, htail, hw.worked⟩

end Ceased

/-! ## The work on the units -/

/-- **Executing a unit submits its source.** Only if it fails, or breaks the run off, the kernel may
have been interrupted. -/
theorem executeUnit_ceases (s : Setting) (config : RunConfig) (unit : CodeUnit)
    (hw : w.handle.state = .connected) :
    (executeUnit s config unit).Ensures w
      (fun failed w' =>
        if failed then Ceased (unit :: due) w w' else Submitted w [unit.source] [] w')
      (fun _ => Ceased (unit :: due) w) := by
  unfold executeUnit
  refine Ensures.bind ((emitAll_ensures s (Text.lines unit.source) w).mono
    (fun _ _ h => (Submitted.refl w).diagnosed h)
    fun _ _ h => .none ((Submitted.refl w).diagnosed h.1)) fun _ v hv => ?_
  rw [ensures_bind, ensures_attempt]
  refine (execute_ensures s.kernel s.sink config.task unit (hv.handleState.trans hw)).mono ?_ ?_
  · -- the unit succeeded
    rintro r v' ⟨hsteady, -, -⟩
    have hsubmitted := (hv.trans (.of_steady hsteady)).addResult r
    rw [ensures_bind, Run.addResult, ensures_change]
    split
    · exact Ensures.bind ((emit_ensures s _ _).mono (fun _ _ h => hsubmitted.diagnosed h)
        fun _ _ h => .first (hsubmitted.diagnosed h.1) (.inl rfl)) fun _ _ h => h
    · exact hsubmitted
  · rintro e v' ⟨⟨cs, hcs, hsteady⟩, -⟩
    have hceased : Ceased (unit :: due) w v' :=
      .between hv (.first (.of_steady hsteady) hcs)
    dsimp only
    split
    · -- the failure comes with a result
      rename_i r _
      rw [ensures_bind, Run.addResult, ensures_change]
      exact Ensures.bind ((diagnose_ensures s _ _).mono
        (fun _ _ h => (hceased.addResult r).diagnosed h.1)
        fun _ _ h => (hceased.addResult r).diagnosed h.1.1) fun _ _ h => h
    · exact hceased

/-- **The loop over the units submits their sources**, those that are skipped left out, and the
kernel may have been interrupted when it stops. -/
theorem executeUnits_ceases (s : Setting) (config : RunConfig) (units : List CodeUnit)
    (hw : w.handle.state = .connected) :
    (executeUnits s config units).Ensures w
      (fun _ => Ceased (units.filter CodeUnit.isExecutable) w)
      (fun _ => Ceased (units.filter CodeUnit.isExecutable) w) := by
  -- as long as the loop goes on only sources were submitted
  induction units generalizing w with
  | nil => exact Ceased.none (Submitted.refl w)
  | cons unit units ih =>
    unfold executeUnits
    rw [ensures_bind]
    refine checkCancelled_ensures _ ?_ fun _ => Ceased.none (Submitted.refl w)
    split
    · -- the unit is skipped
      rename_i hskip
      rw [List.filter_cons_of_neg (by simp [CodeUnit.isExecutable, hskip]), ensures_bind,
        ensures_record]
      have recorded : ∀ r, Submitted w [] [] (w.push (.record r)) := fun r =>
        (Submitted.refl w).diagnosed (Diagnosed.record w r)
      exact (ih (w := w.push _) hw).mono (fun _ _ h => .between (recorded _) h)
        fun _ _ h => .between (recorded _) h
    · rename_i hskip
      rw [List.filter_cons_of_pos (by simp [CodeUnit.isExecutable, hskip])]
      refine (executeUnit_ceases s config unit hw).bind fun failed v hv => ?_
      cases failed with
      | true => exact hv
      | false =>
        have hsubmitted : Submitted w [unit.source] [] v := hv
        exact (ih (hsubmitted.handleState.trans hw)).mono (fun _ _ h => .after hsubmitted h)
          fun _ _ h => .after hsubmitted h

/-- **The work on the units** submits the sources of the first of them, and ends with at most one
attempt to interrupt the kernel. -/
theorem runConnected_ceases (s : Setting) (config : RunConfig) (units : List CodeUnit)
    (hw : w.handle.state = .connected) :
    (runConnected s config units).Ensures w
      (fun _ => Ceased (units.filter CodeUnit.isExecutable) w)
      (fun _ => Ceased (units.filter CodeUnit.isExecutable) w) := by
  unfold runConnected
  rw [ensures_bind]
  refine checkCancelled_ensures _ ?_ fun _ => Ceased.none (Submitted.refl w)
  have hrunning := Submitted.start w .running
  rw [ensures_bind, enter, ensures_change]
  refine Ensures.bind ((emit_ensures s _ _).mono (fun _ _ h => hrunning.diagnosed h)
    fun _ _ h => Ceased.none (hrunning.diagnosed h.1)) fun _ v hv => ?_
  exact (executeUnits_ceases s config units (hv.handleState.trans hw)).mono
    (fun _ _ h => .between hv h) fun _ _ h => .between hv h

/-- The work on the units submits code, and ends with at most one attempt to interrupt the
kernel. -/
theorem runConnected_works (s : Setting) (config : RunConfig) (units : List CodeUnit)
    (hw : w.handle.state = .connected) : Ended w (runConnected s config units w).2 :=
  (runConnected_ceases s config units hw).after.ended

end KernelJob.Run
