import KernelJob.Proofs.Output.Abridged
import KernelJob.Proofs.Session.Built
import KernelJob.Proofs.Session.Plain

/-! # What a receiver is shown of a unit

While a unit is waited for, each line of its output that is kept goes to the receiver at once. When
the unit ends with a result, these are the lines that the result keeps.

* **`UnitResult.Keeps`** — the lines of which the output of a result is made.
* **`Session.Shown`** — what has been captured of a unit is what its receiver was shown.
* **`Session.execute_shows`** — a receiver is shown what the result of a unit keeps, whether its
  code fails or not, and no more than the limit. -/

namespace KernelJob

/-- A line for a receiver is added to the lines. -/
@[simp] theorem World.lines_emitted (w : World) (sink : Sink) (line : Text) :
    (w.emitted sink line).lines = w.lines ++ [line] := by
  unfold emitted
  split
  · exact (lines_push_of_none _ rfl).trans (lines_push w (.line line))
  · exact lines_push w (.line line)

/-- **The lines that a result keeps**: its output is made of them, and each is a single line. -/
def UnitResult.Keeps (r : UnitResult) (kept : List Text) : Prop :=
  r.output = Text.join [newline] kept ∧ ∀ line ∈ kept, newline ∉ line

namespace Action

variable {sink : Sink} {w : World} {E : Failure → World → Prop}

/-- **Lines for a receiver** are added one after the other, up to a line at which it fails. -/
theorem ensures_emitAll_lines {P : List Text → World → Prop}
    (hP : ∀ ls v line, P ls v → P (ls ++ [line]) (v.emitted sink line))
    (hE : ∀ ls v before line e, P (ls ++ [line]) v →
      (sink.react before line).failure = some e → E e v)
    {ls : List Text} (h : P ls w) (more : List Text) :
    (emitAll sink more).Ensures w (fun _ => P (ls ++ more)) E := by
  induction more generalizing ls w with
  | nil =>
    rw [List.append_nil]
    exact h
  | cons line more ih =>
    have hline : P (ls ++ [line]) (w.emitted sink line) := hP ls w line h
    rw [emitAll, ensures_bind, Ensures, emit_apply, List.append_cons]
    cases hf : (sink.react w.lines line).failure with
    | none => exact ih hline
    | some e => exact hE _ _ _ _ e hline hf

end Action

namespace Session

open KernelJob.Action

/-! ## Silent steps -/

/-- The powers of a step that gives no lines. -/
def silent : Powers := { call := true, cancel := true, wait := true, submit := true }

/-- Silent steps add no lines. -/
theorem keptBy_lines (sink : Sink) (ls : List Text) :
    KeptBy sink silent fun w => w.lines = ls where
  congr v w hv htrace _ _ := by
    rw [World.lines, htrace]
    exact hv
  step s hs w hw := by
    cases s with
    | line t => cases hs
    | die said => exact hw
    | cancel => exact (World.lines_push_of_none _ rfl).trans hw
    | record r => exact (World.lines_push_of_none w rfl).trans hw
    | call c => exact (World.lines_push_of_none w rfl).trans hw
    | poll p => exact (World.lines_push_of_none w rfl).trans hw

/-! ## Capturing -/

variable {x : Execution} {before : List Text} {limit : Int} {c : Captured} {w : World}

/-- **What has been captured is what was shown**: since there were the lines `before`, the receiver
was given the lines that the collector has kept. -/
def Shown (before : List Text) (limit : Int) (c : Captured) (w : World) : Prop :=
  ∃ o : Unlimited, o.SingleLines ∧ c.collector = o.limitedTo limit ∧
    w.lines = before ++ c.collector.lines

/-- **A unit that ends with a failure**: if it comes with a result, the receiver was given the lines
that the result keeps, and no more than the limit. -/
def ShownUntil (before : List Text) (limit : Int) (e : Failure) (w : World) : Prop :=
  ∃ ls, w.lines = before ++ ls ∧
    ∀ r, Run.faultResult? e = some r → r.Keeps ls ∧ ls.length ≤ limit.toNat

/-- A failure without a result has nothing to show. -/
theorem shownUntil_of_plain {ls : List Text} (h : w.lines = before ++ ls) {e : Failure}
    (he : Run.faultResult? e = none) : ShownUntil before limit e w := by
  refine ⟨ls, h, fun r hr => ?_⟩
  rw [he] at hr
  cases hr

namespace Shown

/-- A failure without a result may come at any time. -/
theorem until_plain (h : Shown before limit c w) {e : Failure} (he : Run.faultResult? e = none) :
    ShownUntil before limit e w := by
  obtain ⟨o, -, -, hlines⟩ := h
  exact shownUntil_of_plain hlines he

/-- A result keeps what has been captured. -/
theorem keeps (h : Shown before limit c w) (unit elapsed : Int) :
    (resultOf unit elapsed c).Keeps c.collector.lines := by
  obtain ⟨o, hsingle, hc, -⟩ := h
  refine ⟨rfl, fun line hline => ?_⟩
  rw [hc] at hline
  exact hsingle.1 line (List.mem_of_mem_take hline)

/-- No more lines have been captured than the limit. -/
theorem length_le (h : Shown before limit c w) : c.collector.lines.length ≤ limit.toNat := by
  obtain ⟨o, -, hc, -⟩ := h
  rw [hc]
  exact List.length_take_le limit.toNat o.lines

/-- A step that gives no lines changes nothing. -/
theorem step {α : Type} {y : Action α} (h : Shown before limit c w)
    (hy : Built .ignoring silent y) (hplain : Plain y) :
    y.Ensures w (fun _ => Shown before limit c) (ShownUntil before limit) := by
  obtain ⟨o, hsingle, hc, hlines⟩ := h
  refine (((hy.keeps (keptBy_lines _ w.lines)).ensures rfl).and (hplain w)).mono ?_ ?_
  · rintro a w' ⟨hw', -⟩
    exact ⟨o, hsingle, hc, hw'.trans hlines⟩
  · rintro e w' ⟨hw', he⟩
    exact shownUntil_of_plain (hw'.trans hlines) he

end Shown

/-- **Collected output is shown** as far as it is kept. -/
theorem collect_shows (hs : x.sink.FailsPlainly) (step : OutputStep)
    (h : Shown before limit c w) :
    (collect x step c).Ensures w (Shown before limit) (ShownUntil before limit) := by
  obtain ⟨o, hsingle, hc, hlines⟩ := h
  have hstep : c.collector.step step = (o.step step).limitedTo limit := by
    rw [hc, Unlimited.step_limitedTo]
  have hkept : (c.collector.step step).lines =
      c.collector.lines ++ (c.collector.step step).since c.collector := by
    rw [hstep, hc]
    exact Unlimited.since_limitedTo limit (o.lines_prefix_step step)
  unfold collect
  refine Ensures.bind (ensures_emitAll_lines (P := fun ls v => v.lines = before ++ ls)
    (fun ls v line hv => ?_) (fun ls v said line e hv he => ?_) hlines _) fun _ w' hw' => ?_
  · rw [World.lines_emitted, hv, List.append_assoc]
  · exact shownUntil_of_plain hv (hs said line e he)
  · exact ⟨o.step step, hsingle.step step, hstep, by rw [hw', ← hkept]⟩

/-- A result keeps what was shown. -/
theorem makeResult_shows (x : Execution) (h : Shown before limit c w) :
    (makeResult x c).Ensures w
      (fun r w' => w'.lines = before ++ c.collector.lines ∧ r.Keeps c.collector.lines)
      (ShownUntil before limit) := by
  have hlines : w.lines = before ++ c.collector.lines := h.choose_spec.2.2
  unfold makeResult
  rw [ensures_bind, ensures_world]
  split
  · exact ⟨hlines, h.keeps _ _⟩
  · exact shownUntil_of_plain hlines rfl

/-- A turn that ends the wait shows the open line, if the result keeps it. -/
theorem checkTurn_shows (hs : x.sink.FailsPlainly) (h : Shown before limit c w) :
    (checkTurn x c).Ensures w (fun _ => Shown before limit c) (ShownUntil before limit) := by
  have hinterrupt : (interrupt x.kernel).Ensures w (fun _ => Shown before limit c)
      (ShownUntil before limit) :=
    h.step ((interrupt_built x.kernel).mono (by decide)) (plain_interrupt x.kernel)
  unfold checkTurn
  rw [ensures_bind, ensures_world]
  dsimp only
  split
  · -- the run was cancelled
    exact hinterrupt.bind fun _ w' hw' => hw'.until_plain rfl
  split
  · exact h
  split
  · -- the deadline has passed
    refine hinterrupt.bind fun _ w' hw' => ?_
    refine (collect_shows hs .flush hw').bind fun c w' hw' => ?_
    have hfault (fault : CodeFault) : Shown before limit { c with fault := some fault } w' := hw'
    have hlength : c.collector.lines.length ≤ limit.toNat := hw'.length_le
    refine (makeResult_shows x (hfault _)).bind fun r w' hw' => ?_
    refine ⟨_, hw'.1, fun r' hr' => ?_⟩
    obtain rfl : r = r' := Option.some.inj hr'
    exact ⟨hw'.2, hlength⟩
  · exact h

/-- **Waiting for a kernel shows what is captured.** -/
theorem invariant_shown (hs : x.sink.FailsPlainly) (before : List Text) (limit : Int) :
    Invariant x (Shown before limit) (ShownUntil before limit) where
  collect step _ _ h := collect_shows hs step h
  fault _ _ _ h := h
  save data _ _ h := h.step (saveArtifact_built data) (plain_saveArtifact x data)
  misfit _ _ _ h := h.until_plain rfl
  turn _ _ h := checkTurn_shows hs h
  receive p _ _ h := h.step ((receive_built p).mono (by decide)) (plain_receive x p)
  advance _ _ _ h := h
  die _ _ _ h := h
  died _ _ h := h.until_plain rfl

/-! ## The whole unit -/

/-- A unit that was submitted and waited for has been shown. -/
theorem runUnit_shows {sink : Sink} (hs : sink.FailsPlainly) (k : Kernel) (unit : CodeUnit)
    (start : Float) (hw : w.lines = before) :
    (runUnit k sink unit start).Ensures w
      (fun r w' => Shown before w.handle.config.maxResults r.2 w')
      (ShownUntil before w.handle.config.maxResults) := by
  have hsubmit : (submit k unit.source).Ensures w
      (fun _ w' => w'.lines = before ∧ w'.handle.config = w.handle.config)
      (ShownUntil before w.handle.config.maxResults) := by
    have hbuilt : Built .ignoring silent (submit k unit.source) :=
      (submit_built k unit.source).mono (by decide)
    have hlines := (hbuilt.keeps (keptBy_lines _ before)).ensures hw
    refine ((hlines.and (plain_submit k unit.source w)).and
      (submit_ensures k unit.source w)).mono ?_ ?_
    · rintro _ w' ⟨⟨hw', -⟩, hsteady⟩
      exact ⟨hw', hsteady.config⟩
    · rintro e w' ⟨⟨hw', he⟩, -⟩
      exact shownUntil_of_plain (hw'.trans (List.append_nil _).symm) he
  unfold runUnit
  refine hsubmit.bind fun r w₁ hw₁ => ?_
  obtain ⟨request, polls⟩ := r
  obtain ⟨hw₁, hconfig⟩ := hw₁
  rw [ensures_bind, ensures_world, hconfig]
  dsimp only
  -- the collector begins empty
  have hstart : Shown before w.handle.config.maxResults
      { collector := { limit := w.handle.config.maxResults } } w₁ :=
    ⟨{}, Unlimited.singleLines_start, (Unlimited.limitedTo_start _).symm,
      hw₁.trans (List.append_nil _).symm⟩
  exact ((invariant_shown hs before w.handle.config.maxResults).drain polls hstart).bind
    fun c w' hw' => hw'

/-- **A receiver is shown what the result of a unit keeps**, whether its code fails or not, and no
more lines than the limit. -/
theorem execute_shows {sink : Sink} (hs : sink.FailsPlainly) (k : Kernel) (task : Text)
    (unit : CodeUnit) (w : World) :
    (execute k sink task unit).Ensures w
      (fun r w' => ∃ kept, w'.lines = w.lines ++ kept ∧ r.Keeps kept ∧
        kept.length ≤ w.handle.config.maxResults.toNat)
      (ShownUntil w.lines w.handle.config.maxResults) := by
  unfold execute
  rw [ensures_bind, ensures_world]
  split
  · rw [ensures_bind, ensures_record, ensures_bind, ensures_changeHandle, ensures_bind,
      ensures_attempt]
    have hlines (h : Handle) (r : LogRecord) :
        ({ w.push (.record r) with handle := h } : World).lines = w.lines :=
      World.lines_push_of_none w rfl
    refine (runUnit_shows hs k unit w.clock (hlines _ _)).mono ?_ ?_
    · rintro ⟨x, c⟩ w' hw'
      have hhandle (h : Handle) : Shown w.lines w.handle.config.maxResults c
          { w' with handle := h } := hw'
      have hlength : c.collector.lines.length ≤ w.handle.config.maxResults.toNat := hw'.length_le
      rw [ensures_bind, ensures_changeHandle, ensures_bind, ensures_ofExcept]
      dsimp only
      refine (makeResult_shows x (hhandle _)).bind fun r w'' hw'' => ?_
      split
      · -- an error was noted: the result comes with the failure
        refine ⟨_, hw''.1, fun r' hr' => ?_⟩
        obtain rfl : r = r' := Option.some.inj hr'
        exact ⟨hw''.2, hlength⟩
      · exact ⟨_, hw''.1, hw''.2, hlength⟩
    · exact fun e w' hw' => hw'
  · exact shownUntil_of_plain (List.append_nil _).symm rfl

end Session

end KernelJob
