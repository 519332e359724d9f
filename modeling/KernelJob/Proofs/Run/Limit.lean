import KernelJob.Proofs.Run.Course
import KernelJob.Proofs.Session.Answer
import KernelJob.Proofs.Session.Limit

/-! # A run under two limits

The limit for lines of output decides about nothing but which lines are kept. Two runs that differ
in it alone, with a receiver that ignores its lines, do the same and come to the same verdict.

* **`Run.Deed`** — what a run does, whatever its limit, and what of it is seen under a limit.
* **`Run.executeUnits_agree`**, **`Run.steps_agree`** — the units and the steps of a run under two
  limits.
* **`Run.run_sameButKept`** — the limit never influences the run. -/

namespace KernelJob

/-- **Two reports under the limits `m` and `m'`.** -/
structure Report.Alike (m m' : Nat) (r r' : Report) : Prop where
  succeeded : r.succeeded = r'.succeeded
  diagnostics : r.diagnostics = r'.diagnostics
  kernel : r.kernel = r'.kernel
  serverName : r.serverName = r'.serverName
  task : r.task = r'.task
  results : List.Forall₂ (UnitResult.Alike m m') r.results r'.results

/-- **A report abridges another one** if it agrees with it on everything but the output, and each of
its results keeps the first `m` lines. -/
structure Report.Abridges (m : Nat) (r r' : Report) : Prop where
  succeeded : r.succeeded = r'.succeeded
  diagnostics : r.diagnostics = r'.diagnostics
  kernel : r.kernel = r'.kernel
  serverName : r.serverName = r'.serverName
  task : r.task = r'.task
  results : List.Forall₂ (UnitResult.Abridges m) r.results r'.results

namespace Run

open KernelJob.Action KernelJob.Session

/-- **What a run does, whatever its limit.** -/
inductive Deed
  /-- An event outside the units. -/
  | event (e : Event)
  /-- The events while a unit is waited for, with all lines of its output. -/
  | execution (events : List Event)
  /-- A unit ends after some number of lines. -/
  | ending (unit : Int) (lines : Nat)

/-- **What a deed adds to the trace under a limit**: of the lines of a unit the first ones are
given out, and if there are more of them it is said that they were dropped. -/
def Deed.under (limit : Nat) : Deed → List Event
  | .event e => [e]
  | .execution es => firstLines limit es
  | .ending unit lines => if limit < lines then [.line (truncationNotice unit limit)] else []

/-- **Two traces tell of the same deeds**, under the limits `m` and `m'`, since the trace `b`. -/
def Told (b : List Event) (m m' : Nat) (t t' : List Event) : Prop :=
  ∃ deeds : List Deed, t = b ++ deeds.flatMap (·.under m) ∧ t' = b ++ deeds.flatMap (·.under m')

variable {b : List Event} {m m' : Nat} {w v : World} {k : Kernel}

namespace Told

/-- At first there are no deeds. -/
theorem start (b : List Event) (m m' : Nat) : Told b m m' b b :=
  ⟨[], (List.append_nil b).symm, (List.append_nil b).symm⟩

/-- One more deed. -/
theorem concat {t t' : List Event} (h : Told b m m' t t') (d : Deed) :
    Told b m m' (t ++ d.under m) (t' ++ d.under m') := by
  obtain ⟨deeds, rfl, rfl⟩ := h
  refine ⟨deeds ++ [d], ?_, ?_⟩
  · simp
  · simp

/-- Any event may follow. -/
theorem keepsUp (p : Powers) : KeepsUp p (Told b m m') := by
  intro t t' e h _
  exact h.concat (.event e)

/-- A unit has been waited for. -/
theorem of_unfolds {lines : List Text} {t t' : List Event}
    (h : Unfolds (Told b m m') m m' lines t t') : Told b m m' t t' := by
  obtain ⟨_, _, es, hT, -, rfl, rfl⟩ := h
  exact hT.concat (.execution es)

/-- The limits make no difference for anything but lines. -/
theorem filterMap_eq {t t' : List Event} (h : Told b m m' t t') {β : Type} {view : Event → Option β}
    (hview : ∀ line, view (.line line) = none) : t.filterMap view = t'.filterMap view := by
  obtain ⟨deeds, rfl, rfl⟩ := h
  have hdeed : ∀ d : Deed, (d.under m).filterMap view = (d.under m').filterMap view := by
    intro d
    cases d with
    | event e => rfl
    | execution es =>
      exact (filterMap_firstLines hview m es).trans (filterMap_firstLines hview m' es).symm
    | ending unit lines =>
      have hnone : ∀ limit, ((Deed.ending unit lines).under limit).filterMap view = [] := by
        intro limit
        rw [Deed.under]
        split
        · exact List.filterMap_cons_none (hview _)
        · rfl
      rw [hnone, hnone]
  rw [List.filterMap_append, List.filterMap_append, List.filterMap_flatMap, List.filterMap_flatMap]
  simp only [hdeed]

end Told

/-! ## The units -/

/-- What is built from elementary steps does the same in worlds abreast. -/
theorem agree_of_built {α : Type} {p : Powers} {x : Action α} (hx : Built .ignoring p x)
    (h : Abreast (Told b m m') m m' w v) :
    Agree x x w v (Same (Abreast (Told b m m') m m')) (Same (Abreast (Told b m m') m m')) :=
  hx.agree (Told.keepsUp p) h

variable {T : List Event → List Event → Prop} {L : Int → Int → Prop}

/-- A result under each limit is put into the report. -/
theorem beside_addResult (h : Beside T L (UnitResult.Alike m m') w v) {r r' : UnitResult}
    (hr : r.Alike m m' r') :
    Beside T L (UnitResult.Alike m m') { w with progress := w.progress.addResult r }
      { v with progress := v.progress.addResult r' } :=
  ⟨h.view, h.trace, h.limit, List.rel_append h.results (.cons hr .nil)⟩

/-- A line that is given to a receiver that ignores it, if there is a reason to. -/
theorem emitIf_apply (asked : Bool) (t : Text) (w : World) :
    (if asked = true then do emit .ignoring t; pure false else pure false : Action Bool) w =
      (.ok false, { w with trace := w.trace ++ if asked then [.line t] else [] }) := by
  cases asked with
  | true => rfl
  | false => simp

/-- A unit that succeeded ends under both limits. -/
theorem succeeded_agree {r r' : UnitResult} (hr : r.Alike m m' r')
    (h : Abreast (Told b m m') m m' w v) (unit : Int) :
    Agree
      (do
        addResult r
        if r.truncated then emit .ignoring (truncationNotice unit m)
        return false)
      (do
        addResult r'
        if r'.truncated then emit .ignoring (truncationNotice unit m')
        return false) w v
      (Same (Abreast (Told b m m') m m')) (Same (Abreast (Told b m m') m m')) := by
  have hadded := beside_addResult h hr
  obtain ⟨-, -, -, -, lines, -, -, ht, -, ht'⟩ := hr
  rw [addResult, addResult, agree_change_bind]
  unfold Agree
  rw [emitIf_apply, emitIf_apply, ht, ht']
  refine ⟨rfl, hadded.append ?_⟩
  simp only [decide_eq_true_eq]
  exact h.trace.concat (.ending unit lines.length)

/-- **A unit of a run is executed alike under two limits.** -/
theorem executeUnit_agree (config : RunConfig) (unit : CodeUnit)
    (h : Abreast (Told b m m') m m' w v) :
    Agree (executeUnit ⟨k, .ignoring⟩ (config.withLimit m) unit)
      (executeUnit ⟨k, .ignoring⟩ (config.withLimit m') unit) w v
      (Same (Abreast (Told b m m') m m')) (Same (Abreast (Told b m m') m m')) := by
  have hfailed : ∀ {w v : World} {r r' : UnitResult} (message : Text),
      Abreast (Told b m m') m m' w v → r.Alike m m' r' →
      Agree (do addResult r; diagnose ⟨k, .ignoring⟩ message; return true)
        (do addResult r'; diagnose ⟨k, .ignoring⟩ message; return true) w v
        (Same (Abreast (Told b m m') m m')) (Same (Abreast (Told b m m') m m')) := by
    intro w v r r' message h hr
    rw [addResult, addResult, agree_change_bind]
    have hdiagnosed := diagnose_built ⟨k, .ignoring⟩ message
    refine (agree_of_built hdiagnosed (beside_addResult h hr)).same_bind fun _ w v h => ?_
    exact ⟨rfl, h⟩
  unfold executeUnit
  have hechoed : Built .ignoring { speak := true } (emitAll .ignoring (Text.lines unit.source)) :=
    .emitAll rfl _
  refine (agree_of_built hechoed h).same_bind fun _ w v h => ?_
  have hexecuted := execute_agree (Told.keepsUp _) k config.task unit h
  refine hexecuted.attempt_bind ?_ ?_
  · rintro r r' w v ⟨hr, lines, h⟩
    exact succeeded_agree hr (h.of_trace (.of_unfolds h.trace)) unit.sequenceNumber
  · rintro e e' w v ⟨he, lines, h⟩
    have hw : Abreast (Told b m m') m m' w v := h.of_trace (.of_unfolds h.trace)
    cases he with
    | code fault hr => exact hfailed _ hw hr
    | timeout seconds hr => exact hfailed _ hw hr
    | other he =>
      dsimp only
      rw [he]
      exact ⟨rfl, hw⟩

/-- **The units of a run are executed alike under two limits**, one after the other. -/
theorem executeUnits_agree (config : RunConfig) (units : List CodeUnit)
    (h : Abreast (Told b m m') m m' w v) :
    Agree (executeUnits ⟨k, .ignoring⟩ (config.withLimit m) units)
      (executeUnits ⟨k, .ignoring⟩ (config.withLimit m') units) w v
      (Same (Abreast (Told b m m') m m')) (Same (Abreast (Told b m m') m m')) := by
  induction units generalizing w v with
  | nil => exact ⟨rfl, h⟩
  | cons unit units ih =>
    unfold executeUnits
    refine (agree_of_built (checkCancelled_built (p := {}) _) h).same_bind fun _ w v h => ?_
    split
    · -- the unit is skipped
      exact (agree_of_built (.record (p := {}) _ _ _) h).same_bind fun _ w v h => ih h
    · refine (executeUnit_agree config unit h).same_bind fun failed w v h => ?_
      cases failed with
      | true => exact ⟨rfl, h⟩
      | false => exact ih h

/-- The part of a run with a connected kernel. -/
theorem runConnected_agree (config : RunConfig) (units : List CodeUnit)
    (h : Abreast (Told b m m') m m' w v) :
    Agree (runConnected ⟨k, .ignoring⟩ (config.withLimit m) units)
      (runConnected ⟨k, .ignoring⟩ (config.withLimit m') units) w v
      (Same (Abreast (Told b m m') m m')) (Same (Abreast (Told b m m') m m')) := by
  unfold runConnected
  refine (agree_of_built (checkCancelled_built (p := {}) _) h).same_bind fun _ w v h => ?_
  refine (agree_of_built (enter_built (p := {}) _) h).same_bind fun _ w v h => ?_
  refine (agree_of_built (emit_built _) h).same_bind fun _ w v h => ?_
  exact executeUnits_agree config units h

/-! ## The way to the kernel -/

/-- **Two worlds of runs with the limits `m` and `m'`**, whatever connections they have. -/
def Alongside (b : List Event) (m m' : Nat) (w v : World) : Prop :=
  ∃ L, Beside (Told b m m') L (UnitResult.Alike m m') w v

/-- What is built from elementary steps does the same in both. -/
theorem Alongside.built {α : Type} {p : Powers} {x : Action α} (h : Alongside b m m' w v)
    (hx : Built .ignoring p x) :
    Agree x x w v (Same (Alongside b m m')) (Same (Alongside b m m')) := by
  obtain ⟨L, h⟩ := h
  refine (hx.agree (Told.keepsUp p) h).mono ?_ ?_
  · exact fun _ _ _ _ h' => ⟨h'.1, L, h'.2⟩
  · exact fun _ _ _ _ h' => ⟨h'.1, L, h'.2⟩

/-- **Connecting leads to connections that differ in nothing but the limit**, or fails and leaves
the handles as they were. -/
theorem connect_agree (config : RunConfig) (h : Alongside b m m' w v) :
    Agree (connect k (config.withLimit m)) (connect k (config.withLimit m')) w v
      (fun _ _ => Abreast (Told b m m') m m') (Same (Alongside b m m')) := by
  obtain ⟨L, h⟩ := h
  -- the steps of connecting, and those of abandoning it, do not look at the limit
  have hsteps : ∀ l, connectSteps k (config.withLimit l) = connectSteps k config := fun _ => rfl
  have habandon : ∀ l, abandon k (config.withLimit l) = abandon k config := fun _ => rfl
  have hbegun : Abreast (Told b m m') m m' { w with handle := { config := config.withLimit m } }
      { v with handle := { config := config.withLimit m' } } := by
    refine ⟨?_, h.trace, ⟨rfl, rfl⟩, h.results⟩
    exact congrArg (fun u => { u with handle := { config := config.withLimit 0 } }) h.view
  have hhandle : w.handle.withLimit 0 = v.handle.withLimit 0 := congrArg World.handle h.view
  unfold connect
  rw [agree_world_bind, agree_changeHandle_bind, hsteps, hsteps, habandon, habandon]
  refine ((connectSteps_built k config).agree (Told.keepsUp _) hbegun).attempt_bind ?_ ?_
  · rintro _ _ w v ⟨-, h⟩
    have hconnected := h.unseen (.changeHandle (f := fun h =>
      { h with
        state := .connected
        artifacts := config.artifactDirectory.map fun dir => .new dir config.task }) fun _ _ => rfl)
    rw [agree_changeHandle_bind]
    exact hconnected.append (Told.concat h.trace (.event (.record _)))
  · rintro e _ w' v' ⟨rfl, h'⟩
    have habandoned := ((abandon_built k config e).agree (Told.keepsUp _) h').and_ensures
      (abandon_ensures k config e w')
    refine habandoned.attempt_bind ?_ ?_
    · rintro _ _ _ _ ⟨-, hfalse⟩
      exact hfalse.elim
    · rintro e _ w' v' ⟨⟨rfl, h'⟩, -⟩
      rw [agree_changeHandle_bind]
      refine ⟨rfl, L, ?_, h'.trace, h.limit, h'.results⟩
      show { w'.view with handle := w.handle.withLimit 0 } =
        { v'.view with handle := v.handle.withLimit 0 }
      rw [h'.view, hhandle]

/-- A limit that is not negative is no reason to refuse a configuration. -/
theorem check_withLimit (config : RunConfig) (l : Nat) :
    (config.withLimit l).check = (config.withLimit 0).check := by
  have hlimit : ¬ (config.withLimit l).maxResults < 0 := Int.not_lt.mpr (Int.natCast_nonneg l)
  simp only [RunConfig.check, if_neg hlimit]
  rfl

/-- On the way to its kernel a run looks at the limit only to connect. -/
theorem approach_withLimit (s : Setting) (config : RunConfig) (l : Nat) :
    approach s (config.withLimit l) = (do
      match (config.withLimit 0).check with
      | .error fault => fail (.config fault)
      | .ok _ =>
        if config.mode = .file ∧ config.source.isBlank then
          diagnose s emptyPathMessage
          return none
        else
          emitHeader s config
          let units ← loadUnits s config
          checkCancelled .beforeConnecting
          enter .connecting
          connect s.kernel (config.withLimit l)
          return some units) := by
  unfold approach
  rw [check_withLimit]
  rfl

/-- **The way to a connected kernel is the same under two limits.** -/
theorem approach_agree (config : RunConfig) (h : Alongside b m m' w v) :
    Agree (approach ⟨k, .ignoring⟩ (config.withLimit m))
      (approach ⟨k, .ignoring⟩ (config.withLimit m')) w v
      (fun units units' w' v' => units = units' ∧
        if units = none then Alongside b m m' w' v' else Abreast (Told b m m') m m' w' v')
      (Same (Alongside b m m')) := by
  rw [approach_withLimit, approach_withLimit]
  split
  · exact ⟨rfl, h⟩
  split
  · exact (h.built (diagnose_built ⟨k, .ignoring⟩ _)).same_bind fun _ _ _ h => ⟨rfl, h⟩
  · refine (h.built (.emitAll (p := { speak := true }) rfl _)).same_bind fun _ w v h => ?_
    refine (h.built (loadUnits_built ⟨k, .ignoring⟩ config)).same_bind fun units w v h => ?_
    refine (h.built (checkCancelled_built (p := {}) _)).same_bind fun _ w v h => ?_
    refine (h.built (enter_built (p := {}) _)).same_bind fun _ w v h => ?_
    exact (connect_agree config h).bind fun _ _ _ _ h => ⟨rfl, h⟩

/-! ## The whole run -/

/-- Two worlds abreast are alongside. -/
theorem alongside_of_abreast (h : Abreast (Told b m m') m m' w v) : Alongside b m m' w v := ⟨_, h⟩

/-- **The steps of a run are the same under two limits.** -/
theorem steps_agree (config : RunConfig) (h : Alongside b m m' w v) :
    Agree (steps ⟨k, .ignoring⟩ (config.withLimit m)) (steps ⟨k, .ignoring⟩ (config.withLimit m'))
      w v (Same (Alongside b m m')) (Same (Alongside b m m')) := by
  unfold steps
  refine (approach_agree config h).bind ?_
  rintro units _ w v ⟨rfl, h⟩
  cases units with
  | none => exact ⟨rfl, h⟩
  | some units =>
    have hfinal : ∀ {w v : World}, Abreast (Told b m m') m m' w v →
        Agree (finalize ⟨k, .ignoring⟩) (finalize ⟨k, .ignoring⟩) w v (Same (Alongside b m m'))
          (Same (Alongside b m m')) := fun h =>
      (alongside_of_abreast h).built (finalize_built ⟨k, .ignoring⟩)
    unfold closing
    refine (runConnected_agree config units h).attempt_bind ?_ ?_
    · rintro failed _ w v ⟨rfl, h⟩
      exact (hfinal h).same_bind fun _ w v h => ⟨rfl, h⟩
    · rintro e _ w v ⟨rfl, h⟩
      exact (hfinal h).same_bind fun _ w v h => ⟨rfl, h⟩

/-- A run settles in the same way under two limits. -/
theorem settle_agree (config : RunConfig) (h : Alongside b m m' w v) :
    Agree (settle ⟨k, .ignoring⟩ (config.withLimit m))
      (settle ⟨k, .ignoring⟩ (config.withLimit m')) w v (Same (Alongside b m m'))
      (Same (Alongside b m m')) := by
  unfold settle
  refine (steps_agree config h).attempt_bind ?_ ?_
  · rintro failed _ w v ⟨rfl, h⟩
    exact ⟨rfl, h⟩
  · rintro e _ w v ⟨rfl, h⟩
    refine (h.built (recordUnexpected_built (p := {}) e)).same_bind fun _ w v h => ?_
    have hdiagnosed := diagnose_built ⟨k, .ignoring⟩ (diagnosis config e)
    refine (h.built hdiagnosed).same_bind fun _ w v h => ?_
    exact ⟨rfl, h⟩

/-- Results under two limits succeed alike. -/
theorem all_succeeded_eq {rs rs' : List UnitResult}
    (h : List.Forall₂ (UnitResult.Alike m m') rs rs') :
    rs.all UnitResult.succeeded = rs'.all UnitResult.succeeded := by
  induction h with
  | nil => rfl
  | cons hr _ ih => rw [List.all_cons, List.all_cons, ih, UnitResult.succeeded, hr.outcome]; rfl

/-- What was gathered under two limits makes reports that are alike. -/
theorem finish_alike (h : Alongside b m m' w v) (failed : Bool) :
    (w.progress.finish failed).Alike m m' (v.progress.finish failed) := by
  obtain ⟨L, h⟩ := h
  have hprogress : { w.progress with results := [] } = { v.progress with results := [] } :=
    congrArg World.progress h.view
  exact {
    succeeded := by
      rw [Progress.finish, Progress.finish]
      exact congrArg (!failed && ·) (all_succeeded_eq h.results)
    diagnostics := (congrArg Progress.diagnostics hprogress :)
    kernel := (congrArg Progress.kernel hprogress :)
    serverName := (congrArg Progress.serverName hprogress :)
    task := (congrArg Progress.task hprogress :)
    results := h.results }

/-- **A run gives reports that are alike under two limits.** -/
theorem run_agree (k : Kernel) (config : RunConfig) (w : World) (m m' : Nat) :
    Agree (run ⟨k, .ignoring⟩ (config.withLimit m)) (run ⟨k, .ignoring⟩ (config.withLimit m')) w w
      (fun r r' w' v' => r.Alike m m' r' ∧ Alongside w.trace m m' w' v')
      (Same (Alongside w.trace m m')) := by
  have hbegun : Alongside w.trace m m' (begun config w) (begun config w) :=
    ⟨fun _ _ => True, rfl, Told.start _ _ _, trivial, .nil⟩
  unfold run
  rw [agree_change_bind]
  refine (settle_agree config hbegun).same_bind fun failed w v h => ?_
  have hreport := finish_alike h failed
  have hline : verdictLine (config.withLimit m') (v.progress.finish failed) =
      verdictLine config (w.progress.finish failed) := by
    rw [verdictLine, Report.verdict, ← hreport.succeeded]
    rfl
  rw [agree_world_bind]
  dsimp only
  rw [hline]
  refine (h.built (enter_built (p := {}) .done)).same_bind fun _ w v h => ?_
  exact (h.built (emit_built _)).same_bind fun _ w v h => ⟨hreport, h⟩

/-- A run with some limit, for a receiver that ignores its lines. -/
def underLimit (k : Kernel) (config : RunConfig) (m : Nat) : Action Report :=
  run ⟨k, .ignoring⟩ (config.withLimit m)

/-- **Two runs that differ in nothing but the limit** from the same world. -/
structure SameButKept (k : Kernel) (config : RunConfig) (w : World) (m m' : Nat) : Prop where
  /-- Both give reports, and the first one abridges the second one. -/
  reports : ∃ r r', (underLimit k config m w).1 = .ok r ∧ (underLimit k config m' w).1 = .ok r' ∧
    r.Abridges m r'
  /-- The same code is submitted. -/
  submitted : World.submittedSince w (underLimit k config m w).2 =
    World.submittedSince w (underLimit k config m' w).2
  /-- The same calls are made. -/
  calls : World.callsSince w (underLimit k config m w).2 =
    World.callsSince w (underLimit k config m' w).2
  /-- The same messages are received. -/
  polls : World.pollsSince w (underLimit k config m w).2 =
    World.pollsSince w (underLimit k config m' w).2
  /-- The same files are written. -/
  files : (underLimit k config m w).2.files = (underLimit k config m' w).2.files
  /-- The events tell of the same deeds: of all lines of each unit, either limit lets the first
  through. -/
  deeds : ∃ deeds : List Deed,
    World.eventsSince w (underLimit k config m w).2 = deeds.flatMap (·.under m) ∧
      World.eventsSince w (underLimit k config m' w).2 = deeds.flatMap (·.under m')

/-- Of reports that are alike the one under the smaller limit abridges the other one. -/
theorem abridges_of_alike (hm : m ≤ m') {r r' : Report} (h : r.Alike m m' r') :
    r.Abridges m r' where
  succeeded := h.succeeded
  diagnostics := h.diagnostics
  kernel := h.kernel
  serverName := h.serverName
  task := h.task
  results := h.results.imp fun _ _ hr => hr.abridges hm

/-- A run for a receiver that ignores its lines gives a report. -/
theorem underLimit_reports (k : Kernel) (config : RunConfig) (m : Nat) (w : World) :
    ∃ r, (underLimit k config m w).1 = .ok r := by
  rcases hr : (underLimit k config m w).1 with e | r
  · exact absurd (fun _ _ => rfl) ((ensures_iff.mp (run_ensures _ _ w)).2 e hr).2
  · exact ⟨r, rfl⟩

/-- **The limit never influences the run**: under two limits a run does the same and comes to the
same verdict, and of the lines that it keeps of a unit under the larger limit it keeps the first
under the smaller one. -/
theorem run_sameButKept (k : Kernel) (config : RunConfig) (w : World) {m m' : Nat} (hm : m ≤ m') :
    SameButKept k config w m m' := by
  obtain ⟨r, hr⟩ := underLimit_reports k config m w
  obtain ⟨r', hr'⟩ := underLimit_reports k config m' w
  obtain ⟨hreport, L, hview, htold, -, -⟩ := (run_agree k config w m m').of_ok hr hr'
  have hcalls : (underLimit k config m w).2.calls = (underLimit k config m' w).2.calls :=
    htold.filterMap_eq fun _ => rfl
  have hpolls : (underLimit k config m w).2.polls = (underLimit k config m' w).2.polls :=
    htold.filterMap_eq fun _ => rfl
  exact {
    reports := ⟨r, r', hr, hr', abridges_of_alike hm hreport⟩
    submitted := by simp only [World.submittedSince, World.submitted_eq, hcalls]
    calls := by rw [World.callsSince, World.callsSince, hcalls]
    polls := by rw [World.pollsSince, World.pollsSince, hpolls]
    files := (congrArg World.files hview :)
    deeds := by
      obtain ⟨deeds, htrace, htrace'⟩ := htold
      exact ⟨deeds, World.eventsSince_eq htrace, World.eventsSince_eq htrace'⟩ }

/-- An answer of three lines, under the limits of one and of two. -/
theorem run_sameButKept_interleaved :
    1 ≤ 2 ∧ (answer interleaved ⟨0, "1", false⟩ twoLines).lines.length = 3 ∧
      SameButKept interleaved oneLine { handle := { config := oneLine } } 1 2 :=
  ⟨by decide, rfl, run_sameButKept interleaved oneLine _ (by decide)⟩

end Run

end KernelJob
