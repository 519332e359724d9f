import KernelJob.Proofs.Run.Account
import KernelJob.Proofs.Run.Built
import KernelJob.Proofs.Run.LetGo
import KernelJob.Proofs.Session.Lines

/-! # The job log tells what the report says

The lines that a run gives to its receiver are its job log. The log and the report are written by
separate steps, all over the run, and on every way out they tell the same.

* **`Run.Blocks`** — the part of a log that shows the units of a run.
* **`Run.Spoken`** — the lines and the diagnostics that a part of a run adds.
* **`Run.executeUnits_displays`** — the loop over the units shows what it gathers.
* **`Run.Tells`**, **`Run.run_tells`** — the log of a run tells what its report says, if the
  receiver never fails. -/

namespace KernelJob.Run

open KernelJob.Action KernelJob.Session

/-! ## Logs -/

/-- The line that says of what type a source is. -/
def typeLine (config : RunConfig) : Text := "Type : " ++ config.effectiveFormat.name.upper

/-- The lines with which a log begins: what the run is about, and the type of its source. -/
def openingLines (config : RunConfig) : List Text :=
  ["Executed kernel : " ++ config.kernel.upper, "Language : " ++ config.displayName.upper,
    "Platform : " ++ platform, typeLine config]

/-- The line after which the units are shown. -/
def outputLine : Text := "Output : "

/-- The line that says that output was dropped, if the code succeeded and there was more of it. -/
def noticeLines (limit : Int) (r : UnitResult) : List Text :=
  if r.outcome = .success ∧ r.truncated = true then [truncationNotice r.sequenceNumber limit]
  else []

/-- **The block of a unit with a result**: its source, the lines that the result keeps, and that
output was dropped. -/
def IsBlock (limit : Int) (unit : CodeUnit) (r : UnitResult) (block : List Text) : Prop :=
  ∃ kept, r.Keeps kept ∧ block = Text.lines unit.source ++ kept ++ noticeLines limit r

/-- **The blocks of units that were submitted**, one after the other, with the results of the units.
The last unit may have no result; its block begins with its source. -/
inductive Blocks (limit : Int) : List CodeUnit → List UnitResult → List Text → Prop
  /-- No unit is left. -/
  | done : Blocks limit [] [] []
  /-- A unit has no result. -/
  | unfinished (unit : CodeUnit) (ls : List Text) :
    Blocks limit [unit] [] (Text.lines unit.source ++ ls)
  /-- A unit has a result. -/
  | next {unit : CodeUnit} {units : List CodeUnit} {r : UnitResult} {rs : List UnitResult}
      {block blocks : List Text} (number : r.sequenceNumber = unit.sequenceNumber)
      (isBlock : IsBlock limit unit r block) (rest : Blocks limit units rs blocks) :
      Blocks limit (unit :: units) (r :: rs) (block ++ blocks)

/-! ## Speaking -/

/-- **A world in which a run has spoken**: since `w₀` the lines `ls` were given out, and the
diagnostics `ds` were added. -/
structure Spoken (w₀ : World) (ls ds : List Text) (w : World) : Prop where
  lines : w.lines = w₀.lines ++ ls
  diagnostics : w.progress.diagnostics = w₀.progress.diagnostics ++ ds

namespace Spoken

variable {u v w : World} {ls ls' ds ds' : List Text}

theorem refl (w : World) : Spoken w [] [] w := ⟨(List.append_nil _).symm, (List.append_nil _).symm⟩

theorem trans (h : Spoken u ls ds v) (h' : Spoken v ls' ds' w) :
    Spoken u (ls ++ ls') (ds ++ ds') w :=
  ⟨by rw [h'.lines, h.lines, List.append_assoc],
    by rw [h'.diagnostics, h.diagnostics, List.append_assoc]⟩

/-- What neither gives lines nor adds diagnostics says nothing. -/
theorem of_eq (h : Spoken u ls ds v) (hlines : w.lines = v.lines)
    (hdiagnostics : w.progress.diagnostics = v.progress.diagnostics) : Spoken u ls ds w :=
  ⟨hlines.trans h.lines, hdiagnostics.trans h.diagnostics⟩

/-- A log record says nothing. -/
theorem record (h : Spoken u ls ds v) (r : LogRecord) : Spoken u ls ds (v.push (.record r)) :=
  h.of_eq (World.lines_push_of_none v rfl) rfl

/-- A line for the receiver is said. -/
theorem emitted (h : Spoken u ls ds v) (sink : Sink) (line : Text) :
    Spoken u (ls ++ [line]) ds (v.emitted sink line) :=
  ⟨by rw [World.lines_emitted, h.lines, List.append_assoc], by
    rw [World.progress_emitted, h.diagnostics]⟩

end Spoken

variable {s : Setting} {config : RunConfig} {w₀ v w : World} {ls ds : List Text}
  {E : Failure → World → Prop}

/-- **Lines for the receiver** are said, and nothing else is done. -/
theorem emitAll_speaks (hs : s.sink.NeverFails) (ls : List Text) (w : World) :
    (emitAll s.sink ls).Ensures w (fun _ w' => Spoken w ls [] w' ∧ Diagnosed w w') E :=
  ensures_emitAll_lines (P := fun ls v => Spoken w ls [] v ∧ Diagnosed w v)
    (fun _ _ line h => ⟨h.1.emitted s.sink line, h.2.emitted s.sink line⟩)
    (fun _ _ said line e _ he => absurd he (hs.ne_some said line e))
    ⟨Spoken.refl w, Diagnosed.refl w⟩ ls

theorem emit_speaks (hs : s.sink.NeverFails) (line : Text) (w : World) :
    (emit s.sink line).Ensures w (fun _ w' => Spoken w [line] [] w' ∧ Diagnosed w w') E := by
  rw [Ensures, emit_apply, hs]
  exact ⟨(Spoken.refl w).emitted s.sink line, (Diagnosed.refl w).emitted s.sink line⟩

/-- **A diagnostic** is said and added. -/
theorem diagnose_speaks (hs : s.sink.NeverFails) (m : Text) (w : World) :
    (diagnose s m).Ensures w (fun _ w' => Spoken w [m] [m] w' ∧ Diagnosed w w') E := by
  have hrecord := (Spoken.refl w).record ⟨.warning, .run, m⟩
  have hpush := Diagnosed.record w ⟨.warning, .run, m⟩
  unfold diagnose
  rw [ensures_bind, ensures_record, ensures_bind, ensures_change]
  -- the diagnostic is there before the receiver is told
  have hadded : Spoken w [] [m] { w.push (.record ⟨.warning, .run, m⟩) with
      progress := w.progress.addDiagnostic m } := ⟨hrecord.lines, rfl⟩
  have hdiagnosed : Diagnosed w { w.push (.record ⟨.warning, .run, m⟩) with
      progress := w.progress.addDiagnostic m } :=
    ⟨(World.calls_congr rfl).trans hpush.calls, rfl, rfl, List.prefix_append _ _⟩
  exact (emit_speaks hs m _).mono
    (fun _ _ h => ⟨hadded.trans h.1, hdiagnosed.trans h.2⟩) fun _ _ h => h

theorem diagnoseAll_speaks (hs : s.sink.NeverFails) (ms : List Text) (w : World) :
    (diagnoseAll s ms).Ensures w (fun _ w' => Spoken w ms ms w' ∧ Diagnosed w w') E := by
  induction ms generalizing w with
  | nil => exact ⟨Spoken.refl w, Diagnosed.refl w⟩
  | cons m ms ih =>
    rw [diagnoseAll]
    refine (diagnose_speaks hs m w).bind fun _ v hv => ?_
    refine (ih v).mono (fun _ w' hw' => ?_) fun _ _ h => h
    exact ⟨hv.1.trans hw'.1, hv.2.trans hw'.2⟩

/-! ## The units -/

/-- **Executing a unit shows its block**, with a diagnostic after it if its code failed. A unit that
breaks the run off shows its source. -/
theorem executeUnit_speaks (hs : s.sink.NeverFails) (config : RunConfig) (unit : CodeUnit)
    (hw : w.handle.state = .connected) :
    (executeUnit s config unit).Ensures w
      (fun failed w' => ∃ r block ds, w'.progress.results = w.progress.results ++ [r] ∧
        r.sequenceNumber = unit.sequenceNumber ∧ IsBlock config.maxResults unit r block ∧
        Spoken w (block ++ ds) ds w' ∧ (failed = false → ds = []))
      (fun _ w' => ∃ ls, Spoken w (Text.lines unit.source ++ ls) [] w') := by
  unfold executeUnit
  refine (emitAll_speaks hs (Text.lines unit.source) w).bind fun _ w₁ h₁ => ?_
  obtain ⟨hsource, hdiagnosed⟩ := h₁
  have hconnected : w₁.handle.state = .connected := by rw [hdiagnosed.handle, hw]
  -- what was shown while the unit was waited for comes after its source
  have shown {kept cs w'} (hsteady : Steady w₁ cs w') (hlines : w'.lines = w₁.lines ++ kept) :
      Spoken w (Text.lines unit.source ++ kept) [] w' := by
    have hkept : Spoken w₁ kept [] w' := ⟨hlines, by rw [hsteady.progress, List.append_nil]⟩
    simpa using hsource.trans hkept
  have results {cs w'} (hsteady : Steady w₁ cs w') (r : UnitResult) :
      (w'.progress.addResult r).results = w.progress.results ++ [r] := by
    rw [Progress.addResult, hsteady.progress, hdiagnosed.results]
  rw [ensures_bind, ensures_attempt]
  refine ((execute_ensures s.kernel s.sink config.task unit hconnected).and
    (execute_shows hs.failsPlainly s.kernel config.task unit w₁)).mono ?_ ?_
  · -- the unit succeeded
    rintro r w₂ ⟨⟨hsteady, hnumber, houtcome⟩, kept, hlines, hkeeps, -⟩
    have hspoken : Spoken w (Text.lines unit.source ++ kept) []
        { w₂ with progress := w₂.progress.addResult r } := (shown hsteady hlines).of_eq rfl rfl
    rw [ensures_bind, addResult, ensures_change]
    dsimp only
    by_cases htruncated : r.truncated = true
    · -- a notice follows that output was dropped
      have hnotice : noticeLines config.maxResults r =
          [truncationNotice unit.sequenceNumber config.maxResults] := by
        rw [noticeLines, if_pos ⟨houtcome, htruncated⟩, hnumber]
      rw [if_pos htruncated]
      refine (emit_speaks hs _ _).bind fun _ w₃ h₃ => ?_
      refine ⟨r, _, [], ?_, hnumber, ⟨kept, hkeeps, rfl⟩, ?_, fun _ => rfl⟩
      · rw [h₃.2.results]
        exact results hsteady r
      · rw [List.append_nil, hnotice]
        exact hspoken.trans h₃.1
    · have hnotice : noticeLines config.maxResults r = [] := if_neg fun h => htruncated h.2
      rw [if_neg htruncated]
      refine ⟨r, _, [], results hsteady r, hnumber, ⟨kept, hkeeps, rfl⟩, ?_, fun _ => rfl⟩
      rw [List.append_nil, hnotice, List.append_nil]
      exact hspoken
  · rintro e w₂ ⟨⟨⟨cs, -, hsteady⟩, hblames⟩, kept, hlines, hkeeps⟩
    dsimp only
    split
    · -- the failure comes with a result, and a diagnostic follows
      rename_i r hr
      obtain ⟨hnumber, houtcome⟩ := result_of_blames (hblames hs) hr
      have hspoken : Spoken w (Text.lines unit.source ++ kept) []
          { w₂ with progress := w₂.progress.addResult r } := (shown hsteady hlines).of_eq rfl rfl
      have hnotice : noticeLines config.maxResults r = [] := by
        refine if_neg fun h => ?_
        rw [houtcome] at h
        cases h.1
      rw [ensures_bind, addResult, ensures_change]
      refine (diagnose_speaks hs _ _).bind fun _ w₃ h₃ => ?_
      refine ⟨r, _, [faultMessage config unit.sequenceNumber e], ?_, hnumber,
        ⟨kept, (hkeeps r hr).1, rfl⟩, ?_, fun hf => Bool.noConfusion hf⟩
      · rw [h₃.2.results]
        exact results hsteady r
      · rw [hnotice, List.append_nil]
        exact hspoken.trans h₃.1
    · exact ⟨kept, shown hsteady hlines⟩

/-- **A world in which a run has displayed** units that were due: since `w₀` it has shown the blocks
of those that it submitted, and after them what it diagnosed. -/
def Displayed (config : RunConfig) (due : List CodeUnit) (w₀ w : World) : Prop :=
  ∃ units rs blocks ds, units <+: due ∧ Blocks config.maxResults units rs blocks ∧
    Gathered w₀ (units.map CodeUnit.source) rs w ∧ Spoken w₀ (blocks ++ ds) ds w

section

variable {due : List CodeUnit}

/-- Nothing is displayed at first. -/
theorem Displayed.refl (config : RunConfig) (due : List CodeUnit) (w : World) :
    Displayed config due w w :=
  ⟨[], [], [], [], List.nil_prefix, .done, Gathered.refl w, Spoken.refl w⟩

/-- What is displayed may begin after something that neither gathers nor says anything. -/
theorem Displayed.after (hg : Gathered w₀ [] [] v) (hs : Spoken w₀ [] [] v)
    (h : Displayed config due v w) : Displayed config due w₀ w := by
  obtain ⟨units, rs, blocks, ds, hunits, hblocks, hgathered, hspoken⟩ := h
  exact ⟨units, rs, blocks, ds, hunits, hblocks, by simpa using hg.trans hgathered,
    by simpa using hs.trans hspoken⟩

/-- A unit with a result is displayed before the units after it. -/
theorem Displayed.next {unit : CodeUnit} {r : UnitResult} {block : List Text}
    (hnumber : r.sequenceNumber = unit.sequenceNumber)
    (hblock : IsBlock config.maxResults unit r block) (hg : Gathered w₀ [unit.source] [r] v)
    (hs : Spoken w₀ block [] v) (h : Displayed config due v w) :
    Displayed config (unit :: due) w₀ w := by
  obtain ⟨units, rs, blocks, ds, hunits, hblocks, hgathered, hspoken⟩ := h
  refine ⟨unit :: units, r :: rs, block ++ blocks, ds, List.cons_prefix_cons.mpr ⟨rfl, hunits⟩,
    .next hnumber hblock hblocks, hg.trans hgathered, ?_⟩
  rw [List.append_assoc]
  exact hs.trans hspoken

end

/-- **The loop over the units displays them**, on every way out. -/
theorem executeUnits_displays (hs : s.sink.NeverFails) (config : RunConfig) (units : List CodeUnit)
    (hw : w.handle.state = .connected) :
    (executeUnits s config units).Ensures w
      (fun _ => Displayed config (units.filter CodeUnit.isExecutable) w)
      (fun _ => Displayed config (units.filter CodeUnit.isExecutable) w) := by
  -- the block of each unit comes before those that the loop displays from the world after it
  induction units generalizing w with
  | nil => exact Displayed.refl config [] w
  | cons unit units ih =>
    unfold executeUnits
    rw [ensures_bind]
    refine checkCancelled_ensures _ ?_ fun _ => Displayed.refl config _ w
    split
    · -- the unit is skipped
      rename_i hskip
      rw [List.filter_cons_of_neg (by simp [CodeUnit.isExecutable, hskip]), ensures_bind,
        ensures_record]
      have hrecord (r : LogRecord) : Gathered w [] [] (w.push (.record r)) :=
        ((Diagnosed.refl w).push rfl).gathered
      exact (ih (w := w.push _) hw).mono
        (fun _ _ h => h.after (hrecord _) ((Spoken.refl w).record _))
        fun _ _ h => h.after (hrecord _) ((Spoken.refl w).record _)
    · rename_i hskip
      rw [List.filter_cons_of_pos (by simp [CodeUnit.isExecutable, hskip]), ensures_bind]
      refine ((executeUnit_ensures hs config unit hw).and
        (executeUnit_speaks hs config unit hw)).mono ?_ ?_
      · rintro failed w' ⟨hexecuted, r, block, ds, hresults, hnumber, hblock, hspoken, hds⟩
        -- both statements speak of the same result
        obtain ⟨r', -, -, hgathered⟩ := hexecuted.result
        obtain rfl : r' = r := by
          have hsame := List.append_cancel_left (hgathered.results.symm.trans hresults)
          exact (List.cons.inj hsame).1
        cases failed with
        | false =>
          rw [hds rfl, List.append_nil] at hspoken
          exact (ih hexecuted.connected).mono
            (fun _ _ h => h.next hnumber hblock hgathered hspoken)
            fun _ _ h => h.next hnumber hblock hgathered hspoken
        | true =>
          refine ⟨[unit], [r'], block ++ [], ds, List.prefix_append [unit] _,
            .next hnumber hblock .done, hgathered, ?_⟩
          rw [List.append_nil]
          exact hspoken
      · rintro e w' ⟨hgathered, ls, hspoken⟩
        refine ⟨[unit], [], _, [], List.prefix_append [unit] _, .unfinished unit ls, hgathered, ?_⟩
        rw [List.append_nil]
        exact hspoken

/-- **The part of a run with a connected kernel** says that output follows, and displays the
units. -/
theorem runConnected_displays (hs : s.sink.NeverFails) (config : RunConfig) (units : List CodeUnit)
    (hw : w.handle.state = .connected) (hcancelled : w.cancelled = false) :
    ∃ v, Gathered w [] [] v ∧ Spoken w [outputLine] [] v ∧
      Displayed config (units.filter CodeUnit.isExecutable) v
        (runConnected s config units w).2 := by
  refine Ensures.after (P := fun w' => ∃ v, Gathered w [] [] v ∧ Spoken w [outputLine] [] v ∧
    Displayed config (units.filter CodeUnit.isExecutable) v w') ?_
  have hrunning : Diagnosed w { w with state := .running } :=
    ⟨World.calls_congr (w := w) rfl, rfl, rfl, List.prefix_refl _⟩
  have hsilent : Spoken w [] [] { w with state := .running } := (Spoken.refl w).of_eq rfl rfl
  unfold runConnected
  rw [ensures_bind, Ensures, checkCancelled_apply, if_neg (by rw [hcancelled]; decide)]
  dsimp only
  rw [ensures_bind, enter, ensures_change]
  refine (emit_speaks hs outputLine _).bind fun _ v hv => ?_
  have hconnected : v.handle.state = .connected := by rw [hv.2.handle, hrunning.handle, hw]
  have hgathered : Gathered w [] [] v := (hrunning.trans hv.2).gathered
  have hspoken : Spoken w [outputLine] [] v := hsilent.trans hv.1
  exact (executeUnits_displays hs config units hconnected).mono
    (fun _ _ h => ⟨v, hgathered, hspoken, h⟩) fun _ _ h => ⟨v, hgathered, hspoken, h⟩

/-! ## Before the units -/

/-- What gives no lines and leaves what was gathered as it is says nothing. -/
theorem says_nothing {α : Type} {x : Action α} {Q : α → World → Prop}
    (hlines : Keeps (fun v => v.lines = w.lines) x) (h : x.Ensures w Q E)
    (hQ : ∀ a w', Q a w' → w'.progress = w.progress)
    (hE : ∀ e w', E e w' → w'.progress = w.progress) :
    x.Ensures w (fun _ => Spoken w [] []) (fun _ => Spoken w [] []) := by
  have said {w'} (hw : w'.lines = w.lines) (hp : w'.progress = w.progress) : Spoken w [] [] w' :=
    (Spoken.refl w).of_eq hw (by rw [hp])
  exact ((hlines.ensures rfl).and h).mono (fun a w' hw' => said hw'.1 (hQ a w' hw'.2))
    fun e w' hw' => said hw'.1 (hE e w' hw'.2)

/-- Loading a source says its type, unless there is nothing to be read. -/
theorem loadUnits_speaks (hs : s.sink.NeverFails) (config : RunConfig) (w : World) :
    (loadUnits s config).Ensures w (fun _ => Spoken w [typeLine config] [])
      (fun _ w' => Spoken w [] [] w' ∨ Spoken w [typeLine config] [] w') := by
  have hkept (ls : List Text) : KeptBy s.sink silent fun v => v.lines = ls := keptBy_lines _ ls
  unfold loadUnits
  have hextension := says_nothing ((recordExtension_built config).keeps (hkept w.lines))
    (recordExtension_quiet config (Quiet.refl w) (E := fun _ _ => False))
    (fun _ _ h => h.progress) fun _ _ h => h.elim
  refine (hextension.mono (fun _ _ h => h) fun _ _ h => .inl h).bind fun _ w₁ h₁ => ?_
  have hbytes := says_nothing ((loadBytes_built config).keeps (hkept w₁.lines))
    (loadBytes_ensures config (Quiet.refl w₁)) (fun _ _ h => h.2.progress) fun _ _ h => h.progress
  refine (hbytes.mono (fun _ _ h => h₁.trans h) fun _ _ h => .inl (h₁.trans h)).bind
    fun bytes w₂ h₂ => ?_
  refine (emit_speaks hs (typeLine config) w₂).bind fun _ w₃ h₃ => ?_
  have htype : Spoken w [typeLine config] [] w₃ := h₂.trans h₃.1
  split
  · exact .inr htype
  · rename_i document _
    have hdocument := says_nothing ((recordDocument_built document).keeps (hkept w₃.lines))
      (recordDocument_quiet document (Quiet.refl w₃) (E := fun _ _ => False))
      (fun _ _ h => h.progress) fun _ _ h => h.elim
    refine (hdocument.mono (fun _ _ h => htype.trans h) fun _ _ h => .inr (htype.trans h)).bind
      fun _ w₄ h₄ => ?_
    exact h₄.record _

/-- Connecting says nothing. -/
theorem connect_speaks (k : Kernel) (config : RunConfig) (w : World) :
    (Session.connect k config).Ensures w (fun _ => Spoken w [] []) (fun _ => Spoken w [] []) := by
  have hkept : KeptBy .ignoring { call := true, cancel := true } fun v => v.lines = w.lines :=
    (keptBy_lines _ w.lines).mono (by decide)
  refine says_nothing (connect_keeps hkept k config) (connect_ensures k config w) ?_ ?_
  · rintro _ w' ⟨directory, h⟩
    exact h.progress
  · rintro _ w' ⟨cs, -, h⟩
    exact h.progress

/-- **The way to a connected kernel** says the lines with which a log begins, as far as it gets. A
run that names no source says that instead. -/
theorem approach_speaks (hs : s.sink.NeverFails) (config : RunConfig) (w : World) :
    (approach s config).Ensures w
      (fun units w' => match units with
        | none => Spoken w [emptyPathMessage] [emptyPathMessage] w'
        | some _ => Spoken w (openingLines config) [] w')
      (fun _ w' => ∃ progress, progress <+: openingLines config ∧ Spoken w progress [] w') := by
  unfold approach
  split
  · exact ⟨[], List.nil_prefix, Spoken.refl w⟩
  split
  · -- the run names no source
    exact (diagnose_speaks hs emptyPathMessage w).bind fun _ w' h => h.1
  refine (emitAll_speaks hs _ w).bind fun _ w₁ h₁ => ?_
  have hheader := h₁.1
  refine Ensures.bind ((loadUnits_speaks hs config w₁).mono (fun _ _ h => hheader.trans h) ?_) ?_
  · rintro e w' (h | h)
    · exact ⟨_, List.prefix_append _ [typeLine config], hheader.trans h⟩
    · exact ⟨_, List.prefix_refl _, hheader.trans h⟩
  intro units w₂ h₂
  -- from here on nothing more is said
  rw [ensures_bind]
  refine checkCancelled_ensures _ ?_ fun _ => ⟨_, List.prefix_refl _, h₂⟩
  rw [ensures_bind, enter, ensures_change]
  have h₃ : Spoken w (openingLines config) [] { w₂ with state := .connecting } := h₂.of_eq rfl rfl
  refine Ensures.bind ((connect_speaks s.kernel config _).mono (fun _ _ h => h) fun _ _ h => ?_)
    fun _ w₄ h₄ => ?_
  · exact ⟨_, List.prefix_refl _, by simpa using h₃.trans h⟩
  · show Spoken w (openingLines config) [] w₄
    simpa using h₃.trans h₄

/-! ## After the units -/

/-- **The end of a run** says what it diagnoses. -/
theorem finalize_speaks (hs : s.sink.NeverFails) (w : World) :
    ∃ ms, Spoken w ms ms (finalize s w).2 := by
  refine Ensures.after (P := fun w' => ∃ ms, Spoken w ms ms w') ?_
  have hclose (v : World) : (close s.kernel).Ensures v (fun _ w' => w'.progress = v.progress)
      (fun _ w' => w'.progress = v.progress) := by
    by_cases hclosed : v.handle.state = .closed
    · rw [Ensures, close_apply, if_pos hclosed]
    · rw [Ensures, close_apply, if_neg hclosed]
      exact (release_ensures s.kernel v).mono (fun _ _ h => h.1.progress)
        fun _ _ h => h.1.progress
  have hfinalizing : Spoken w [] [] { w with state := .finalizing } :=
    (Spoken.refl w).of_eq rfl rfl
  have hkept (ls : List Text) : KeptBy s.sink { call := true } fun v => v.lines = ls :=
    (keptBy_lines _ ls).mono (by decide)
  unfold finalize
  rw [ensures_bind, enter, ensures_change]
  refine Ensures.bind ((says_nothing ((close_built s.kernel).keeps (hkept _)) (hclose _)
    (fun _ _ h => h) fun _ _ h => h).mono (fun _ _ h => hfinalizing.trans h)
    fun _ _ h => ⟨[], hfinalizing.trans h⟩) fun messages v hv => ?_
  exact (diagnoseAll_speaks hs messages v).mono (fun _ _ h => ⟨messages, hv.trans h.1⟩)
    fun _ _ h => h

/-- Logging a failure says nothing. -/
theorem recordUnexpected_speaks (e : Failure) (w : World) :
    (recordUnexpected e).Ensures w (fun _ => Spoken w [] []) E := by
  unfold recordUnexpected
  split
  case h_8 =>
    split
    · exact (Spoken.refl w).record _
    · exact Spoken.refl w
  all_goals exact Spoken.refl w

/-- **After its steps a run says** what it diagnoses, and then the verdict on its report. -/
theorem run_speaks (hs : s.sink.NeverFails) (config : RunConfig) (w : World) :
    (run s config).Ensures w
      (fun report w' => ∃ ds, Spoken (steps s config (begun config w)).2
        (ds ++ [verdictLine config report]) ds w') (fun _ _ => False) := by
  have hsettle : (settle s config).Ensures (begun config w)
      (fun _ w' => ∃ ds, Spoken (steps s config (begun config w)).2 ds ds w')
      (fun _ _ => False) := by
    unfold settle
    rw [ensures_bind, ensures_attempt]
    unfold Ensures
    rcases steps s config (begun config w) with ⟨e | failed, v⟩
    · -- the failure is diagnosed
      refine Ensures.bind (recordUnexpected_speaks e v) fun _ v' hv' => ?_
      refine (diagnose_speaks hs (diagnosis config e) v').bind fun _ w' h => ?_
      exact ⟨[diagnosis config e], hv'.trans h.1⟩
    · exact ⟨[], Spoken.refl v⟩
  unfold run
  rw [ensures_bind, ensures_change]
  refine hsettle.bind fun failed v hv => ?_
  obtain ⟨ds, hspoken⟩ := hv
  rw [ensures_bind, ensures_world, ensures_bind, enter, ensures_change]
  have hdone : Spoken (steps s config (begun config w)).2 ds ds { v with state := .done } :=
    hspoken.of_eq rfl rfl
  refine (emit_speaks hs _ _).bind fun _ w' h => ⟨ds, ?_⟩
  simpa using hdone.trans h.1

/-! ## The log as a whole -/

/-- **A run reaches its units** if it is connected to its kernel, and was not cancelled by then. -/
def ReachesUnits (s : Setting) (config : RunConfig) (w : World) : Prop :=
  ∃ units, (approach s config (begun config w)).1 = .ok (some units) ∧
    (approach s config (begun config w)).2.cancelled = false

/-- **What the steps of a run say**: how the run goes on, and then what it diagnoses. A run that
reaches its units says so and displays them; one that does not gets no further than the lines with
which a log begins. -/
theorem steps_speak (hs : s.sink.NeverFails) (config : RunConfig) (w : World) :
    ∃ progress ds, Spoken (begun config w) (progress ++ ds) ds
        (steps s config (begun config w)).2 ∧
      (ReachesUnits s config w → ∃ units rs blocks, units <+: dueUnits w.files config ∧
        Gathered (begun config w) (units.map CodeUnit.source) rs
          (steps s config (begun config w)).2 ∧
        Blocks config.maxResults units rs blocks ∧
        progress = openingLines config ++ outputLine :: blocks) ∧
      (¬ ReachesUnits s config w → progress <+: openingLines config ∧
        Gathered (begun config w) [] [] (steps s config (begun config w)).2) := by
  have hspeaks := approach_speaks hs config (begun config w)
  have hgathers := approach_ensures s config (begun config w)
  unfold ReachesUnits
  rw [steps_apply]
  unfold Ensures at hspeaks hgathers
  rcases ha : approach s config (begun config w) with ⟨e | _ | units, v⟩ <;>
    rw [ha] at hspeaks hgathers
  · -- the run got as far as its failure
    obtain ⟨progress, hprogress, hspoken⟩ := hspeaks
    refine ⟨progress, [], by simpa using hspoken, ?_, fun _ => ⟨hprogress, hgathers⟩⟩
    rintro ⟨units, hunits, -⟩
    cases hunits
  · -- the run names no source
    refine ⟨[], _, hspeaks, ?_, fun _ => ⟨List.nil_prefix, hgathers.1⟩⟩
    rintro ⟨units, hunits, -⟩
    cases hunits
  have hg := Approached.gathered hgathers
  have hopen := Approached.connected hgathers
  obtain ⟨hunits, -⟩ := hgathers
  have hspoken : Spoken (begun config w) (openingLines config) [] v := hspeaks
  dsimp only
  rw [closing_world]
  by_cases hcancelled : v.cancelled = true
  · -- the run was cancelled while its kernel was started
    rw [runConnected_of_cancelled config units hcancelled]
    dsimp only
    obtain ⟨ms, hms⟩ := finalize_speaks hs v
    have hfinal : Finalized s.kernel v (finalize s v).2 :=
      (finalize_ensures s (by rw [hopen]; decide)).after
    refine ⟨openingLines config, ms, hspoken.trans hms, ?_, fun _ => ⟨List.prefix_refl _, ?_⟩⟩
    · rintro ⟨units', -, hnot⟩
      rw [hcancelled] at hnot
      cases hnot
    · simpa using hg.trans hfinal.gathered
  · obtain ⟨u, hgu, houtput, hdisplayed⟩ :=
      runConnected_displays hs config units hopen (Bool.eq_false_iff.mpr hcancelled)
    obtain ⟨units', rs, blocks, ds, hprefix, hblocks, hgathered, hdisplay⟩ := hdisplayed
    have hunderway := runConnected_keeps s config units hopen v (UnderWay.refl v)
    generalize (runConnected s config units v).2 = v' at *
    have hstate : v'.handle.state = .connected :=
      (congrArg Handle.state hunderway.connection).trans hopen
    have hfinal : Finalized s.kernel v' (finalize s v').2 :=
      (finalize_ensures s (by rw [hstate]; decide)).after
    obtain ⟨ms, hms⟩ := finalize_speaks hs v'
    refine ⟨openingLines config ++ outputLine :: blocks, ds ++ ms, ?_, fun _ => ?_, ?_⟩
    · simpa using ((hspoken.trans houtput).trans hdisplay).trans hms
    · refine ⟨units', rs, blocks, ?_, ?_, hblocks, rfl⟩
      · rw [hunits] at hprefix
        exact hprefix
      · simpa using ((hg.trans hgu).trans hgathered).trans hfinal.gathered
    · exact fun hnot => absurd ⟨units, rfl, Bool.eq_false_iff.mpr hcancelled⟩ hnot

/-- **A log that tells what the report says.** `w` is the world before the run, `w'` that after
it. -/
structure Tells (s : Setting) (config : RunConfig) (w w' : World) (report : Report) : Prop where
  /-- The log has three parts: how the run went on, the diagnostics of the report, and the verdict.
  A run that reached its units shows their blocks; one that did not has none to show. -/
  parts : ∃ progress, World.linesSince w w' =
      progress ++ report.diagnostics ++ [verdictLine config report] ∧
    (ReachesUnits s config w → ∃ units blocks, units <+: dueUnits w.files config ∧
      World.submittedSince w w' = units.map CodeUnit.source ∧
      Blocks config.maxResults units report.results blocks ∧
      progress = openingLines config ++ outputLine :: blocks) ∧
    (¬ ReachesUnits s config w → progress <+: openingLines config ∧
      World.submittedSince w w' = [] ∧ report.results = [])
  /-- The verdict is that of the report. -/
  verdict : ("Finished: SUCCESS" : Text) <+: verdictLine config report ↔ report.succeeded = true

/-- The verdict line says success if the report does. -/
theorem verdictLine_iff (config : RunConfig) (report : Report) :
    ("Finished: SUCCESS" : Text) <+: verdictLine config report ↔ report.succeeded = true := by
  have hsplit : ("Finished: SUCCESS" : Text) = "Finished: " ++ "SUCCESS" := by decide
  have hlength : ("FAILURE" : Text).length = ("SUCCESS" : Text).length := by decide
  have hne : ("SUCCESS" : Text) ≠ "FAILURE" := by decide
  rw [hsplit, verdictLine]
  simp only [List.append_assoc]
  rw [List.prefix_append_right_inj, Report.verdict]
  cases report.succeeded with
  | true =>
    rw [if_pos rfl]
    exact iff_of_true (List.prefix_append _ _) rfl
  | false =>
    rw [if_neg Bool.false_ne_true]
    refine iff_of_false (fun h => hne ?_) Bool.false_ne_true
    rw [List.prefix_iff_eq_take, List.take_left' hlength] at h
    exact h

/-- **The job log and the report agree**, whatever the kernel does, if the receiver of the lines
never fails. -/
theorem run_tells (s : Setting) (config : RunConfig) (w : World) (hs : s.sink.NeverFails) :
    ∃ report w', run s config w = (.ok report, w') ∧ Tells s config w w' report := by
  have hend := (run_ensures s config w).and (run_speaks hs config w)
  obtain ⟨progress, ds, hsteps, hreached, hunreached⟩ := steps_speak hs config w
  unfold Ensures at hend
  rcases hr : run s config w with ⟨e | report, w'⟩ <;> rw [hr] at hend
  · exact hend.2.elim
  obtain ⟨⟨hdiagnosed, failed, -, hreport⟩, ds', hverdict⟩ := hend
  have hspoken := hsteps.trans hverdict
  -- the report holds what was diagnosed, in the order in which it was said
  have hdiagnostics : report.diagnostics = ds ++ ds' := by
    rw [hreport]
    exact hspoken.diagnostics.trans (List.nil_append _)
  have gathered {ts rs} (hg : Gathered (begun config w) ts rs
      (steps s config (begun config w)).2) :
      World.submittedSince w w' = ts ∧ report.results = rs := by
    have hg' := hg.diagnosed hdiagnosed
    refine ⟨World.submittedSince_eq hg'.submitted, ?_⟩
    rw [hreport]
    exact hg'.results.trans (List.nil_append _)
  refine ⟨report, w', rfl, ⟨progress, ?_, fun h => ?_, fun h => ?_⟩, verdictLine_iff config report⟩
  · have hlines : World.linesSince w w' = _ := World.linesSince_eq hspoken.lines
    rw [hlines, hdiagnostics]
    simp only [List.append_assoc]
  · obtain ⟨units, rs, blocks, hunits, hg, hblocks, hprogress⟩ := hreached h
    obtain ⟨hsubmitted, rfl⟩ := gathered hg
    exact ⟨units, blocks, hunits, hsubmitted, hblocks, hprogress⟩
  · obtain ⟨hprogress, hg⟩ := hunreached h
    exact ⟨hprogress, gathered hg⟩

/-- A run of three units whose second one fails reaches its units, and its log tells what its report
says. -/
theorem run_tells_sameLines :
    ReachesUnits ⟨secondFails, .ignoring⟩ sameLines { handle := { config := sameLines } } ∧
      ∃ report w', run ⟨secondFails, .ignoring⟩ sameLines { handle := { config := sameLines } } =
          (.ok report, w') ∧
        report.results.map UnitResult.outcome = [.success, .fault] ∧
        Tells ⟨secondFails, .ignoring⟩ sameLines { handle := { config := sameLines } } w'
          report := by
  have hreaches : ((approach ⟨secondFails, .ignoring⟩ sameLines
      (begun sameLines { handle := { config := sameLines } })).1.toOption,
      (approach ⟨secondFails, .ignoring⟩ sameLines
        (begun sameLines { handle := { config := sameLines } })).2.cancelled) =
        (some (some (loadedUnits {} sameLines)), false) := by
    decide +kernel
  have houtcomes := outcomes_sameLines
  obtain ⟨hunits, huncancelled⟩ := Prod.mk.inj hreaches
  obtain ⟨report, w', hrun, htells⟩ :=
    run_tells ⟨secondFails, .ignoring⟩ sameLines { handle := { config := sameLines } }
      fun _ _ => rfl
  rw [hrun] at houtcomes
  refine ⟨⟨loadedUnits {} sameLines, ?_, huncancelled⟩, report, w', hrun,
    Option.some.inj houtcomes, htells⟩
  cases ho : (approach ⟨secondFails, .ignoring⟩ sameLines
      (begun sameLines { handle := { config := sameLines } })).1 with
  | ok units =>
    rw [ho] at hunits
    exact congrArg Except.ok (Option.some.inj hunits)
  | error e =>
    rw [ho] at hunits
    cases hunits

end KernelJob.Run
