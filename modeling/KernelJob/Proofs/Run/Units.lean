import KernelJob.Proofs.Session.Unit
import KernelJob.Run.Orchestrate

/-! # The units of a run

The loop over the units submits code, adds results and stops at the first unit that fails, in one
of several ways. A tally says what it has done when it stops.

* **`Run.Tally`** — the units that are due, how the loop over them ended, the sources that it
  submitted and the results that it added.
* **`Run.Gathered`** — what a part of a run adds to the submitted sources, the results and the
  diagnostics.
* **`Run.executeUnits_ensures`** — the loop keeps a tally, if the receiver of the lines never
  fails. -/

namespace KernelJob.Run

open KernelJob.Action KernelJob.Session

/-! ## Tallies -/

/-- How the loop over the units ends. -/
inductive Ending
  /-- All units succeeded. -/
  | complete
  /-- A unit failed. -/
  | fault
  /-- The run was broken off. -/
  | broken

/-- **What the loop has done with the units that are due**: the sources that it submitted and the
results that it added, one for each unit up to the one at which it ended. -/
inductive Tally : List CodeUnit → Ending → List Text → List UnitResult → Prop
  /-- No unit is left. -/
  | complete : Tally [] .complete [] []
  /-- The run is broken off before a unit. -/
  | stopped (due : List CodeUnit) : Tally due .broken [] []
  /-- The run is broken off while a unit is executed. -/
  | broken (unit : CodeUnit) (due : List CodeUnit) : Tally (unit :: due) .broken [unit.source] []
  /-- A unit fails. -/
  | fault (unit : CodeUnit) (due : List CodeUnit) {r : UnitResult}
      (number : r.sequenceNumber = unit.sequenceNumber) (outcome : r.outcome = .fault) :
      Tally (unit :: due) .fault [unit.source] [r]
  /-- A unit succeeds. -/
  | next (unit : CodeUnit) {due : List CodeUnit} {ending : Ending} {r : UnitResult}
      {ts : List Text} {rs : List UnitResult} (number : r.sequenceNumber = unit.sequenceNumber)
      (outcome : r.outcome = .success) (rest : Tally due ending ts rs) :
      Tally (unit :: due) ending (unit.source :: ts) (r :: rs)

namespace Tally

variable {due : List CodeUnit} {ending : Ending} {ts : List Text} {rs : List UnitResult}

/-- The submitted sources are those of the first units. -/
theorem submitted_prefix (h : Tally due ending ts rs) : ts <+: due.map CodeUnit.source := by
  induction h with
  | complete => exact List.nil_prefix
  | stopped => exact List.nil_prefix
  | broken unit due => exact List.prefix_append [unit.source] (due.map CodeUnit.source)
  | fault unit due => exact List.prefix_append [unit.source] (due.map CodeUnit.source)
  | next unit _ _ _ ih => exact List.cons_prefix_cons.mpr ⟨rfl, ih⟩

/-- The results are those of the first units. -/
theorem numbers (h : Tally due ending ts rs) :
    rs.map UnitResult.sequenceNumber = (due.take rs.length).map CodeUnit.sequenceNumber := by
  induction h with
  | complete => rfl
  | stopped => rfl
  | broken => rfl
  | fault unit due number => simp [number]
  | next unit number _ _ ih => simp [number, ih]

/-- There are as many results as submitted sources, or one less. -/
theorem submitted_length (h : Tally due ending ts rs) :
    ts.length = rs.length ∨ ts.length = rs.length + 1 := by
  induction h with
  | complete => exact .inl rfl
  | stopped => exact .inl rfl
  | broken => exact .inr rfl
  | fault => exact .inl rfl
  | next _ _ _ _ ih => simpa using ih

/-- All results but the last are successes. -/
theorem success_of_mem_dropLast (h : Tally due ending ts rs) :
    ∀ r ∈ rs.dropLast, r.outcome = .success := by
  induction h with
  | complete => simp
  | stopped => simp
  | broken => simp
  | fault => simp
  | @next unit due ending r ts rs number outcome rest ih =>
    -- the result counts unless the rest of the tally has none
    rcases rs with _ | ⟨r', rs⟩
    · simp
    · rw [List.dropLast_cons_cons]
      exact List.forall_mem_cons.mpr ⟨outcome, ih⟩

/-- A loop that ends with a result that is a fault has submitted nothing else. -/
theorem length_eq_of_fault (h : Tally due ending ts rs) {r : UnitResult}
    (hlast : rs.getLast? = some r) (hr : r.outcome = .fault) : ts.length = rs.length := by
  induction h with
  | complete => cases hlast
  | stopped => cases hlast
  | broken => cases hlast
  | fault => rfl
  | @next unit due ending r' ts rs number outcome rest ih =>
    rcases rs with _ | ⟨r'', rs⟩
    · -- the last result is a success
      rw [List.getLast?_singleton, Option.some.injEq] at hlast
      rw [hlast, hr] at outcome
      cases outcome
    · rw [List.getLast?_cons_cons] at hlast
      rw [List.length_cons, List.length_cons, ih hlast]

/-- A loop that ends completely has a success for every unit. -/
theorem of_complete (h : Tally due .complete ts rs) :
    rs.length = due.length ∧ ∀ r ∈ rs, r.outcome = .success := by
  generalize he : Ending.complete = ending at h
  induction h with
  | complete => simp
  | stopped => cases he
  | broken => cases he
  | fault => cases he
  | next _ _ outcome _ ih =>
    obtain ⟨hlength, hall⟩ := ih he
    exact ⟨by simp [hlength], List.forall_mem_cons.mpr ⟨outcome, hall⟩⟩

end Tally

/-! ## Diagnostics -/

/-- **A world to which at most diagnostics were added**, and the lines and log records that go with
them. -/
structure Diagnosed (w₀ w : World) : Prop where
  calls : w.calls = w₀.calls
  handle : w.handle = w₀.handle
  results : w.progress.results = w₀.progress.results
  diagnostics : w₀.progress.diagnostics <+: w.progress.diagnostics

namespace Diagnosed

variable {u v w : World}

theorem refl (w : World) : Diagnosed w w := ⟨rfl, rfl, rfl, List.prefix_refl _⟩

theorem trans (h : Diagnosed u v) (h' : Diagnosed v w) : Diagnosed u w :=
  ⟨h'.calls.trans h.calls, h'.handle.trans h.handle, h'.results.trans h.results,
    h.diagnostics.trans h'.diagnostics⟩

/-- An event that is no call is no more than a diagnostic. -/
theorem push (h : Diagnosed u v) {e : Event} (he : e.call? = none) : Diagnosed u (v.push e) :=
  ⟨by rw [World.calls_push, he, h.calls]; exact List.append_nil _, h.handle, h.results,
    h.diagnostics⟩

/-- A log record is no more than a diagnostic. -/
theorem record (w : World) (r : LogRecord) : Diagnosed w (w.push (.record r)) :=
  (refl w).push rfl

/-- A line for a receiver is no more than a diagnostic. -/
theorem emitted (h : Diagnosed u v) (sink : Sink) (line : Text) :
    Diagnosed u (v.emitted sink line) :=
  ⟨by simpa using h.calls, by simpa using h.handle, by simpa using h.results,
    by simpa using h.diagnostics⟩

end Diagnosed

/-- A line for a receiver is no more than a diagnostic, whether the receiver takes it or fails. -/
theorem emit_ensures (s : Setting) (line : Text) (w : World) :
    (emit s.sink line).Ensures w (fun _ => Diagnosed w)
      (fun _ w' => Diagnosed w w' ∧ ¬ s.sink.NeverFails) :=
  ensures_emit (fun _ line h => h.emitted s.sink line) line (Diagnosed.refl w)

theorem emitAll_ensures (s : Setting) (lines : List Text) (w : World) :
    (emitAll s.sink lines).Ensures w (fun _ => Diagnosed w)
      (fun _ w' => Diagnosed w w' ∧ ¬ s.sink.NeverFails) :=
  ensures_emitAll (fun _ line h => h.emitted s.sink line) lines (Diagnosed.refl w)

/-- A diagnostic is added and given to the receiver. -/
theorem diagnose_ensures (s : Setting) (m : Text) (w : World) :
    (diagnose s m).Ensures w (fun _ w' => Diagnosed w w' ∧ w'.progress.diagnostics ≠ [])
      (fun _ w' => (Diagnosed w w' ∧ w'.progress.diagnostics ≠ []) ∧ ¬ s.sink.NeverFails) := by
  unfold diagnose
  rw [ensures_bind, ensures_record, ensures_bind, ensures_change]
  refine ensures_emit (fun w' line hw' => ?_) m ?_
  · exact ⟨hw'.1.emitted s.sink line, by simpa using hw'.2⟩
  · -- the diagnostic is there before the receiver is told
    have hpush := Diagnosed.record w ⟨.warning, .run, m⟩
    refine ⟨⟨(World.calls_congr rfl).trans hpush.calls, rfl, rfl, List.prefix_append _ _⟩, ?_⟩
    simp [Progress.addDiagnostic]

/-- Diagnostics are added one after the other. -/
theorem diagnoseAll_ensures (s : Setting) (ms : List Text) (w : World) :
    (diagnoseAll s ms).Ensures w (fun _ => Diagnosed w)
      (fun _ w' => Diagnosed w w' ∧ ¬ s.sink.NeverFails) := by
  induction ms generalizing w with
  | nil => exact Diagnosed.refl w
  | cons m ms ih =>
    unfold diagnoseAll
    refine ((diagnose_ensures s m w).mono (fun _ _ h => h.1) fun _ _ h => ⟨h.1.1, h.2⟩).bind
      fun _ v hv => ?_
    exact (ih v).mono (fun _ _ h => hv.trans h) fun _ _ h => ⟨hv.trans h.1, h.2⟩

/-! ## What a run gathers -/

/-- **A world in which a run has gathered more**: since `w₀` the sources `ts` were submitted and the
results `rs` were added; diagnostics were at most added. -/
structure Gathered (w₀ : World) (ts : List Text) (rs : List UnitResult) (w : World) : Prop where
  submitted : w.submitted = w₀.submitted ++ ts
  results : w.progress.results = w₀.progress.results ++ rs
  diagnostics : w₀.progress.diagnostics <+: w.progress.diagnostics

/-- Diagnostics are no sources and no results. -/
theorem Diagnosed.gathered {v w : World} (h : Diagnosed v w) : Gathered v [] [] w :=
  ⟨by rw [World.submitted_eq, h.calls, List.append_nil, World.submitted_eq],
    by rw [h.results, List.append_nil], h.diagnostics⟩

namespace Gathered

variable {u v w : World} {ts ts' : List Text} {rs rs' : List UnitResult}

theorem refl (w : World) : Gathered w [] [] w := (Diagnosed.refl w).gathered

theorem trans (h : Gathered u ts rs v) (h' : Gathered v ts' rs' w) :
    Gathered u (ts ++ ts') (rs ++ rs') w :=
  ⟨by rw [h'.submitted, h.submitted, List.append_assoc],
    by rw [h'.results, h.results, List.append_assoc], h.diagnostics.trans h'.diagnostics⟩

theorem diagnosed (h : Gathered u ts rs v) (h' : Diagnosed v w) : Gathered u ts rs w := by
  simpa using h.trans h'.gathered

/-- Calls that submit nothing add nothing. -/
theorem of_calls {cs : List Call} (hc : w.calls = v.calls ++ cs) (hp : w.progress = v.progress) :
    Gathered v (cs.filterMap Call.source?) [] w :=
  ⟨by rw [World.submitted_eq, hc, List.filterMap_append, World.submitted_eq],
    by rw [hp, List.append_nil], [], by rw [hp, List.append_nil]⟩

/-- A result is added to the results. -/
theorem addResult (h : Gathered u ts rs v) (r : UnitResult) :
    Gathered u ts (rs ++ [r]) { v with progress := v.progress.addResult r } :=
  ⟨(congrArg _ (World.calls_congr rfl)).trans h.submitted,
    by rw [Progress.addResult, h.results, List.append_assoc], h.diagnostics⟩

/-- The work on a unit submits its source, and adds no result by itself. -/
theorem of_steady {unit : CodeUnit} {h : Handle} {cs : List Call}
    (hcs : cs = [] ∨ cs = h.interruptCalls) (hw : Steady v (.execute unit.source :: cs) w) :
    Gathered v [unit.source] [] w := by
  have hnone : cs.filterMap Call.source? = [] := by
    rcases hcs with rfl | rfl
    · rfl
    · unfold Handle.interruptCalls
      split <;> rfl
  -- of the calls for the unit only the first has a source
  have hg := of_calls hw.calls hw.progress
  rwa [List.filterMap_cons_some (f := Call.source?) rfl, hnone] at hg

end Gathered

variable {s : Setting} {config : RunConfig} {w₀ w : World} {ts : List Text} {rs : List UnitResult}
  {E : Failure → World → Prop}

/-! ## The loop -/

/-- **A unit that was executed** and whose result was added, with a diagnostic if it failed. -/
structure Executed (unit : CodeUnit) (w₀ : World) (failed : Bool) (w : World) : Prop where
  result : ∃ r : UnitResult, r.sequenceNumber = unit.sequenceNumber ∧
    r.outcome = (if failed then .fault else .success) ∧ Gathered w₀ [unit.source] [r] w
  connected : w.handle.state = .connected
  diagnosed : failed = true → w.progress.diagnostics ≠ []

/-- The result that a failure comes with is that of the unit that it blames. -/
theorem result_of_blames {e : Failure} {unit : Int} {r : UnitResult} (h : e.Blames unit)
    (hr : faultResult? e = some r) : r.sequenceNumber = unit ∧ r.outcome = .fault := by
  cases e with
  | code fault result =>
    obtain rfl : result = r := Option.some.inj hr
    exact h
  | timeout seconds result =>
    obtain rfl : result = r := Option.some.inj hr
    exact h
  | _ => cases hr

/-- Executing a unit adds its result, unless it breaks the run off; then no result was added. -/
theorem executeUnit_ensures (hs : s.sink.NeverFails) (config : RunConfig) (unit : CodeUnit)
    (hw : w.handle.state = .connected) :
    (executeUnit s config unit).Ensures w (fun failed => Executed unit w failed)
      (fun _ => Gathered w [unit.source] []) := by
  unfold executeUnit
  refine ((emitAll_ensures s (Text.lines unit.source) w).of_neverFails hs).bind fun _ w₁ h₁ => ?_
  have hconnected : w₁.handle.state = .connected := by rw [h₁.handle, hw]
  -- whether the unit succeeds or not, the run goes on from its outcome
  rw [ensures_bind, ensures_attempt]
  refine (execute_ensures s.kernel s.sink config.task unit hconnected).mono ?_ ?_
  · -- the unit succeeded
    rintro r w₂ ⟨hsteady, hnumber, houtcome⟩
    have hg := Gathered.of_steady (h := w₁.handle) (.inl rfl) hsteady
    have success : ∀ w', Diagnosed { w₂ with progress := w₂.progress.addResult r } w' →
        Executed unit w false w' := by
      intro w' h
      refine ⟨⟨r, hnumber, houtcome, ?_⟩, ?_, fun hf => Bool.noConfusion hf⟩
      · exact ((h₁.gathered.trans hg).addResult r).diagnosed h
      · rw [h.handle]
        exact hsteady.handleState.trans hconnected
    rw [ensures_bind, addResult, ensures_change]
    split
    · -- a notice follows that output was dropped
      exact ((emit_ensures s _ _).of_neverFails hs).bind fun _ w' h => success w' h
    · exact success _ (Diagnosed.refl _)
  · rintro e w₂ ⟨⟨cs, hcs, hsteady⟩, hblames⟩
    have hg := h₁.gathered.trans (Gathered.of_steady hcs hsteady)
    dsimp only
    split
    · -- the failure comes with a result
      rename_i r hr
      have hresult := result_of_blames (hblames hs) hr
      rw [ensures_bind, addResult, ensures_change]
      refine ((diagnose_ensures s _ _).of_neverFails hs).bind fun _ w' h => ?_
      obtain ⟨hd, hdiagnosed⟩ := h
      refine ⟨⟨r, hresult.1, hresult.2, (hg.addResult r).diagnosed hd⟩, ?_, fun _ => hdiagnosed⟩
      rw [hd.handle]
      exact hsteady.handleState.trans hconnected
    · exact hg

/-- **The units that are due are settled**: there is a tally of what was gathered. -/
def Settled (due : List CodeUnit) (w₀ w : World) : Prop :=
  ∃ ending ts rs, Tally due ending ts rs ∧ Gathered w₀ ts rs w

/-- **The units that are due are finished**: all succeeded, or the run failed and a diagnostic says
why. -/
def Finished (due : List CodeUnit) (w₀ : World) : Bool → World → Prop
  | false, w => ∃ ts rs, Tally due .complete ts rs ∧ Gathered w₀ ts rs w
  | true, w => Settled due w₀ w ∧ w.progress.diagnostics ≠ []

section

variable {due : List CodeUnit} {v : World} {failed : Bool}

/-- A tally may begin earlier and end later, if nothing is gathered before and after. -/
theorem Settled.between (hv : Gathered w₀ [] [] v) {u : World} (h : Settled due v u)
    (hw : Gathered u [] [] w) : Settled due w₀ w := by
  obtain ⟨ending, ts, rs, htally, hu⟩ := h
  exact ⟨ending, ts, rs, htally, by simpa using (hv.trans hu).trans hw⟩

theorem Finished.between (hv : Gathered w₀ [] [] v) {u : World} (h : Finished due v failed u)
    (hw : Gathered u [] [] w) : Finished due w₀ failed w := by
  rcases failed with _ | _
  · obtain ⟨ts, rs, htally, hu⟩ := h
    exact ⟨ts, rs, htally, by simpa using (hv.trans hu).trans hw⟩
  · refine ⟨h.1.between hv hw, fun hnil => h.2 ?_⟩
    exact List.prefix_nil.mp (hnil ▸ hw.diagnostics)

/-- What is finished is settled. -/
theorem Finished.settled (h : Finished due w₀ failed w) : Settled due w₀ w := by
  rcases failed with _ | _
  · exact ⟨_, h⟩
  · exact h.1

/-- A unit that succeeded comes before the units that are settled after it. -/
theorem Executed.settled {unit : CodeUnit} (h : Executed unit w₀ false v) (hw : Settled due v w) :
    Settled (unit :: due) w₀ w := by
  obtain ⟨r, hnumber, houtcome, hg⟩ := h.result
  obtain ⟨ending, ts, rs, htally, hgw⟩ := hw
  exact ⟨ending, _, _, .next unit hnumber houtcome htally, hg.trans hgw⟩

theorem Executed.finished {unit : CodeUnit} (h : Executed unit w₀ false v)
    (hw : Finished due v failed w) : Finished (unit :: due) w₀ failed w := by
  rcases failed with _ | _
  · obtain ⟨r, hnumber, houtcome, hg⟩ := h.result
    obtain ⟨ts, rs, htally, hgw⟩ := hw
    exact ⟨_, _, .next unit hnumber houtcome htally, hg.trans hgw⟩
  · exact ⟨h.settled hw.1, hw.2⟩

end

/-- A run that is not cancelled goes on as it is. -/
theorem checkCancelled_ensures (point : CancelPoint) {Q : Unit → World → Prop}
    (hok : Q () w) (hfail : ∀ e, E e w) : (checkCancelled point).Ensures w Q E := by
  unfold checkCancelled
  rw [ensures_bind, ensures_world]
  split
  · exact hfail _
  · exact hok

/-- **The loop over the units keeps a tally** of the units that are not skipped. -/
theorem executeUnits_ensures (hs : s.sink.NeverFails) (config : RunConfig) (units : List CodeUnit)
    (hw : w.handle.state = .connected) :
    (executeUnits s config units).Ensures w (Finished (units.filter CodeUnit.isExecutable) w)
      (fun _ => Settled (units.filter CodeUnit.isExecutable) w) := by
  -- each unit adds its entry to the tally of the units after it, kept from the world it leaves
  induction units generalizing w with
  | nil => exact ⟨[], [], .complete, Gathered.refl w⟩
  | cons unit units ih =>
    unfold executeUnits
    rw [ensures_bind]
    refine checkCancelled_ensures _ ?_ fun _ => ⟨_, [], [], .stopped _, Gathered.refl w⟩
    split
    · -- the unit is skipped
      rename_i hskip
      rw [List.filter_cons_of_neg (by simp [CodeUnit.isExecutable, hskip]), ensures_bind,
        ensures_record]
      have recorded : ∀ r, Gathered w [] [] (w.push (.record r)) := fun r =>
        (Diagnosed.record w r).gathered
      exact (ih (w := w.push _) hw).mono (fun _ w' h => h.between (recorded _) (Gathered.refl w'))
        fun _ w' h => h.between (recorded _) (Gathered.refl w')
    · rename_i hskip
      rw [List.filter_cons_of_pos (by simp [CodeUnit.isExecutable, hskip]), ensures_bind]
      refine (executeUnit_ensures hs config unit hw).mono ?_ ?_
      · intro failed w' h
        rcases failed with _ | _
        · -- the unit succeeded, and the loop goes on
          exact (ih h.connected).mono (fun _ _ hrest => h.finished hrest)
            fun _ _ hrest => h.settled hrest
        · obtain ⟨r, hnumber, houtcome, hg⟩ := h.result
          exact ⟨⟨_, _, _, .fault unit _ hnumber houtcome, hg⟩, h.diagnosed rfl⟩
      · exact fun e w' hg => ⟨_, _, _, .broken unit _, hg⟩

end KernelJob.Run
