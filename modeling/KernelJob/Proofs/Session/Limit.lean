import KernelJob.Proofs.Agree
import KernelJob.Proofs.Output.Abridged
import KernelJob.Proofs.Session.Built
import KernelJob.Proofs.Session.Plain

/-! # A unit under two limits

A unit is executed under two limits for its output, for a receiver that ignores it. Beyond the limit
the session goes on taking messages into account: both executions do the same, and of the lines
that the larger limit lets through the smaller one lets the first through.

* **`Failure.Alike`** — two failures that differ at most in the lines of a result.
* **`Session.Unfolds`** — two traces while the same unit is waited for.
* **`Session.drain_agree`**, **`Session.execute_agree`** — the wait for a kernel and the whole work
  on a unit under two limits. -/

namespace KernelJob

open KernelJob.Action

/-- **Two failures that differ in nothing but the limit**: they are the same, or both come with a
result. -/
inductive Failure.Alike (m m' : Nat) : Failure → Failure → Prop
  /-- The code failed. -/
  | code (fault : CodeFault) {r r' : UnitResult} (h : r.Alike m m' r') :
    Alike m m' (.code fault r) (.code fault r')
  /-- The code took too long. -/
  | timeout (seconds : Float) {r r' : UnitResult} (h : r.Alike m m' r') :
    Alike m m' (.timeout seconds r) (.timeout seconds r')
  /-- There is no result. -/
  | other {e : Failure} (h : Run.faultResult? e = none) : Alike m m' e e

namespace Session

/-- **Two traces unfold the same unit** if, after traces that are related by `T`, the same events
followed, up to the lines that the limits `m` and `m'` let through. -/
def Unfolds (T : List Event → List Event → Prop) (m m' : Nat) (lines : List Text)
    (t t' : List Event) : Prop :=
  ∃ b b' es, T b b' ∧ es.filterMap Event.line? = lines ∧
    t = b ++ firstLines m es ∧ t' = b' ++ firstLines m' es

variable {T : List Event → List Event → Prop} {m m' : Nat} {lines : List Text}

namespace Unfolds

/-- A unit begins without lines. -/
theorem start {t t' : List Event} (h : T t t') : Unfolds T m m' [] t t' :=
  ⟨t, t', [], h, rfl, by simp [firstLines], by simp [firstLines]⟩

/-- Any events that are no lines may follow. -/
theorem keepsUp : KeepsUp { call := true, cancel := true, wait := true, submit := true }
    (Unfolds T m m' lines) := by
  rintro _ _ e ⟨b, b', es, hT, rfl, rfl, rfl⟩ he
  have hline : e.line? = none := by
    rw [← Option.not_isSome_iff_eq_none]
    exact fun h => Bool.noConfusion (he h)
  have hone : ∀ n, firstLines n [e] = [e] := fun n => by
    rw [firstLines_cons hline]
    cases n <;> rfl
  refine ⟨b, b', es ++ [e], hT, ?_, ?_, ?_⟩
  · simp [hline]
  · rw [firstLines_append, hone, List.append_assoc]
  · rw [firstLines_append, hone, List.append_assoc]

/-- The lines that follow are cut to the limits. -/
theorem append {t t' : List Event} (h : Unfolds T m m' lines t t') (more : List Text) :
    Unfolds T m m' (lines ++ more) (t ++ (more.take (m - lines.length)).map .line)
      (t' ++ (more.take (m' - lines.length)).map .line) := by
  obtain ⟨b, b', es, hT, rfl, rfl, rfl⟩ := h
  refine ⟨b, b', es ++ more.map .line, hT, ?_, ?_, ?_⟩
  · rw [List.filterMap_append, List.filterMap_map]
    simp [Function.comp_def, Event.line?]
  · rw [firstLines_append, firstLines_map_line, List.append_assoc]
  · rw [firstLines_append, firstLines_map_line, List.append_assoc]

end Unfolds

/-- The limits `l` and `l'`. -/
def Limits (l l' : Int) (a a' : Int) : Prop := a = l ∧ a' = l'

/-- **Two worlds of runs with the limits `m` and `m'`**, with traces that are related by `T`. -/
def Abreast (T : List Event → List Event → Prop) (m m' : Nat) : World → World → Prop :=
  Beside T (Limits m m') (UnitResult.Alike m m')

/-- **What has been captured under two limits** is what a collector without a limit holds, and the
traces unfold its lines. -/
inductive Taken (T : List Event → List Event → Prop) (m m' : Nat) :
    Captured → Captured → World → World → Prop
  | intro {o : Unlimited} {fault : Option CodeFault} {w v : World} (hlines : o.SingleLines)
    (h : Abreast (Unfolds T m m' o.lines) m m' w v) :
    Taken T m m' ⟨o.limitedTo m, fault⟩ ⟨o.limitedTo m', fault⟩ w v

/-- **How a unit breaks off under two limits**: alike, whatever lines there were. -/
def BreaksOff (T : List Event → List Event → Prop) (m m' : Nat) (e e' : Failure) (w v : World) :
    Prop :=
  e.Alike m m' e' ∧ ∃ lines, Abreast (Unfolds T m m' lines) m m' w v

variable {x : Execution} {c c' : Captured} {w v : World}

namespace Taken

/-- The worlds are abreast, whatever was captured. -/
theorem abreast (h : Taken T m m' c c' w v) :
    ∃ lines, Abreast (Unfolds T m m' lines) m m' w v := by
  obtain ⟨-, hw⟩ := h
  exact ⟨_, hw⟩

/-- The worlds look the same. -/
theorem view (h : Taken T m m' c c' w v) : w.view = v.view := by
  obtain ⟨_, hw⟩ := h.abreast
  exact hw.view

/-- A failure without a result breaks a unit off. -/
theorem breaksOff (h : Taken T m m' c c' w v) {e : Failure} (he : Run.faultResult? e = none) :
    BreaksOff T m m' e e w v :=
  ⟨.other he, h.abreast⟩

/-- An error is noted under both limits. -/
theorem noted (h : Taken T m m' c c' w v) (fault : CodeFault) :
    Taken T m m' { c with fault := some fault } { c' with fault := some fault } w v := by
  obtain ⟨hlines, hw⟩ := h
  exact .intro hlines hw

end Taken

/-! ## Steps without output -/

/-- A step before the output of a unit does the same under two limits. -/
theorem Abreast.step {α : Type} {p : Powers} {y : Action α} (h : Abreast T m m' w v)
    (hy : Built .ignoring p y) (hplain : Plain y) (hT : KeepsUp p T) :
    Agree y y w v (Same (Abreast T m m')) (BreaksOff T m m') := by
  refine ((hy.agree hT h).and_ensures (hplain w)).mono (fun _ _ _ _ h => h.1) ?_
  rintro e _ w' v' ⟨⟨rfl, hw'⟩, he⟩
  exact ⟨.other he, [], hw'.of_trace (.start hw'.trace)⟩

/-- **A step without output** does the same under two limits. -/
theorem Taken.step {α : Type} {p : Powers} {y : Action α} (h : Taken T m m' c c' w v)
    (hy : Built .ignoring p y) (hplain : Plain y)
    (hp : p.Within { call := true, cancel := true, wait := true, submit := true }) :
    Agree y y w v (Same (Taken T m m' c c')) (BreaksOff T m m') := by
  obtain ⟨hlines, hw⟩ := h
  refine ((hy.agree (Unfolds.keepsUp.mono hp) hw).and_ensures (hplain w)).mono ?_ ?_
  · rintro a _ w' v' ⟨⟨rfl, hw'⟩, -⟩
    exact ⟨rfl, .intro hlines hw'⟩
  · rintro e _ w' v' ⟨⟨rfl, hw'⟩, he⟩
    exact ⟨.other he, _, hw'⟩

/-! ## Messages -/

/-- A value that a message should hold is there in both or in neither. -/
theorem Taken.ofMisfit {α : Type} (h : Taken T m m' c c' w v) (r : Except Misfit α) :
    Agree (ofExcept (r.mapError Failure.misfit)) (ofExcept (r.mapError Failure.misfit)) w v
      (Same (Taken T m m' c c')) (BreaksOff T m m') := by
  rcases r with misfit | a
  · exact h.breaksOff rfl
  · exact ⟨rfl, h⟩

/-- **Output is collected under both limits.** -/
theorem collect_agree (hx : x.sink = .ignoring) (step : OutputStep) (h : Taken T m m' c c' w v) :
    Agree (collect x step c) (collect x step c') w v (Taken T m m') (BreaksOff T m m') := by
  obtain ⟨hlines, hw⟩ := h
  rename_i o fault
  obtain ⟨more, hmore⟩ := Unlimited.lines_prefix_step o step
  unfold collect
  rw [hx, Unlimited.step_limitedTo, Unlimited.step_limitedTo, agree_emitAll_bind,
    Unlimited.since_limitedTo_of_append _ hmore.symm,
    Unlimited.since_limitedTo_of_append _ hmore.symm]
  refine .intro (hlines.step step) (hw.append ?_)
  rw [← hmore]
  exact hw.trace.append more

/-- The plain text of an output is collected. -/
theorem collectPlain_agree (hx : x.sink = .ignoring) (data : Json) (h : Taken T m m' c c' w v) :
    Agree (collectPlain x data c) (collectPlain x data c') w v (Taken T m m')
      (BreaksOff T m m') := by
  unfold collectPlain
  refine (h.ofMisfit _).same_bind fun plain w v h => ?_
  split
  · refine (h.ofMisfit _).same_bind fun joined w v h => ?_
    cases joined with
    | text t => exact collect_agree hx _ h
    | _ => exact (collect_agree hx _ h).bind fun _ _ _ _ h => h.breaksOff rfl
  · exact h

/-- An output in several types is saved or its plain text is collected. -/
theorem collectRich_agree (hx : x.sink = .ignoring) (content : Json) (h : Taken T m m' c c' w v) :
    Agree (collectRich x content c) (collectRich x content c') w v (Taken T m m')
      (BreaksOff T m m') := by
  unfold collectRich
  refine (h.ofMisfit _).same_bind fun data w v h => ?_
  have hsaved := h.step (p := {}) (saveArtifact_built data) (plain_saveArtifact x data) (by decide)
  refine hsaved.same_bind fun saved w v h => ?_
  cases saved with
  | none => exact collectPlain_agree hx data h
  | some name => exact collect_agree hx _ h

/-- The lines of a traceback are collected one after the other. -/
theorem collectTraceback_agree (hx : x.sink = .ignoring) (items : List Json)
    (h : Taken T m m' c c' w v) :
    Agree (collectTraceback x items c) (collectTraceback x items c') w v (Taken T m m')
      (BreaksOff T m m') := by
  induction items generalizing c c' w v with
  | nil => exact h
  | cons item items ih =>
    cases item with
    | text t => exact (collect_agree hx _ h).bind fun _ _ _ _ h => ih h
    | _ => exact h.breaksOff rfl

/-- What a message means under two limits. -/
def TakenOn (T : List Event → List Event → Prop) (m m' : Nat) :
    Progressed → Progressed → World → World → Prop
  | .more c, .more c', w, v => Taken T m m' c c' w v
  | .idle c, .idle c', w, v => Taken T m m' c c' w v
  | _, _, _, _ => False

/-- A message about the request is taken into account. -/
theorem handleOwn_agree (hx : x.sink = .ignoring) (type content : Json)
    (h : Taken T m m' c c' w v) :
    Agree (handleOwn x type content c) (handleOwn x type content c') w v (TakenOn T m m')
      (BreaksOff T m m') := by
  unfold handleOwn
  split
  · -- streamed text
    refine (h.ofMisfit _).same_bind fun text w v h => ?_
    cases text with
    | text t => exact (collect_agree hx _ h).bind fun _ _ _ _ h => h
    | _ => exact h.breaksOff rfl
  split
  · -- an output in several types
    exact (collectRich_agree hx content h).bind fun _ _ _ _ h => h
  split
  · -- an error of the code
    refine (h.ofMisfit _).same_bind fun fault w v h => ?_
    refine (h.ofMisfit _).same_bind fun items w v h => ?_
    exact (collectTraceback_agree hx items (h.noted fault)).bind fun _ _ _ _ h => h
  split
  · -- a new state of the kernel
    refine (h.ofMisfit _).same_bind fun state w v h => ?_
    split
    · exact (collect_agree hx _ h).bind fun _ _ _ _ h => h
    · exact h
  · exact h

/-- **A message is taken into account under both limits.** -/
theorem handleMessage_agree (hx : x.sink = .ignoring) (message : Json)
    (h : Taken T m m' c c' w v) :
    Agree (handleMessage x message c) (handleMessage x message c') w v (TakenOn T m m')
      (BreaksOff T m m') := by
  unfold handleMessage
  refine (h.ofMisfit _).same_bind fun about w v h => ?_
  split
  · refine (h.ofMisfit _).same_bind fun header w v h => ?_
    refine (h.ofMisfit _).same_bind fun type w v h => ?_
    refine (h.ofMisfit _).same_bind fun content w v h => ?_
    exact handleOwn_agree hx type content h
  · exact h

/-! ## Waiting -/

/-- Both limits give a result, and the first lines are the same. -/
theorem makeResult_agree (x : Execution) (h : Taken T m m' c c' w v) :
    Agree (makeResult x c) (makeResult x c') w v
      (fun r r' w' v' => r.Alike m m' r' ∧ Taken T m m' c c' w' v') (BreaksOff T m m') := by
  have hclock : v.clock = w.clock := (congrArg World.clock h.view).symm
  unfold makeResult
  rw [agree_world_bind, hclock]
  rcases elapsedMilliseconds x.start w.clock with fault | ms
  · exact h.breaksOff rfl
  · refine ⟨?_, h⟩
    obtain ⟨hlines, -⟩ := h
    exact hlines.alike m m' x.unit ms _

/-- A turn ends the wait under both limits or under neither. -/
theorem checkTurn_agree (hx : x.sink = .ignoring) (h : Taken T m m' c c' w v) :
    Agree (checkTurn x c) (checkTurn x c') w v (fun _ _ => Taken T m m' c c')
      (BreaksOff T m m') := by
  have hinterrupt := h.step (interrupt_built x.kernel) (plain_interrupt x.kernel) (by decide)
  have hcancelled : v.cancelled = w.cancelled := (congrArg World.cancelled h.view).symm
  have hclock : v.clock = w.clock := (congrArg World.clock h.view).symm
  unfold checkTurn
  rw [agree_world_bind, hcancelled, hclock]
  dsimp only
  split
  · -- the run was cancelled
    refine hinterrupt.same_bind fun _ w v h => ?_
    exact h.breaksOff rfl
  split
  · exact h
  split
  · -- the deadline has passed
    rename_i seconds _ _
    refine hinterrupt.same_bind fun _ w v h => ?_
    refine (collect_agree hx _ h).bind fun c c' w v h => ?_
    refine (makeResult_agree x (h.noted (.ofTimeout seconds))).bind ?_
    rintro r r' w v ⟨hr, h⟩
    exact ⟨.timeout seconds hr, h.abreast⟩
  · exact h

/-- The kernel is found alive or dead under both limits. -/
theorem Taken.checkAlive (h : Taken T m m' c c' w v) :
    Agree checkAlive checkAlive w v (fun _ _ => Taken T m m' c c') (BreaksOff T m m') :=
  (h.step (p := {}) checkAlive_built plain_checkAlive (by decide)).mono
    (fun _ _ _ _ h => h.2) fun _ _ _ _ h => h

/-- A silent kernel is waited for. -/
theorem drainSilence_agree (hx : x.sink = .ignoring) (waits : Nat)
    (h : Taken T m m' c c' w v) :
    Agree (drainSilence x c waits) (drainSilence x c' waits) w v (Taken T m m')
      (BreaksOff T m m') := by
  have hadvance (seconds : Float) : ∀ {w v : World}, Taken T m m' c c' w v →
      Taken T m m' c c' { w with clock := w.clock + seconds }
        { v with clock := v.clock + seconds } := by
    rintro w v ⟨hlines, hw⟩
    refine .intro hlines (hw.unseen (f := fun u => { u with clock := u.clock + _ }) ?_)
    exact ⟨fun _ => rfl, fun _ => rfl, fun _ => rfl, fun _ => rfl, fun _ => rfl, fun _ => rfl⟩
  have hdie : ∀ {w v : World}, Taken T m m' c c' w v →
      Taken T m m' c c' { w with alive := false } { v with alive := false } := by
    rintro w v ⟨hlines, hw⟩
    exact .intro hlines ⟨congrArg (fun u => { u with alive := false }) hw.view, hw.trace, hw.limit,
      hw.results⟩
  induction waits generalizing w v with
  | zero =>
    refine (checkTurn_agree hx h).bind fun _ _ w v h => ?_
    rw [advance, agree_change_bind, agree_change_bind]
    exact (hdie (hadvance _ h)).checkAlive.bind fun _ _ _ _ h => h
  | succ waits ih =>
    refine (checkTurn_agree hx h).bind fun _ _ w v h => ?_
    rw [advance, agree_change_bind]
    exact (hadvance _ h).checkAlive.bind fun _ _ _ _ h => ih h

/-- **The wait for a kernel takes the same course under two limits.** -/
theorem drain_agree (hx : x.sink = .ignoring) (polls : List Poll)
    (h : Taken T m m' c c' w v) :
    Agree (drain x c polls) (drain x c' polls) w v (Taken T m m') (BreaksOff T m m') := by
  induction polls generalizing c c' w v with
  | nil => exact drainSilence_agree hx _ h
  | cons p ps ih =>
    refine (checkTurn_agree hx h).bind fun _ _ w v h => ?_
    have hreceived := h.step (receive_built p) (plain_receive x p) (by decide)
    refine hreceived.same_bind fun message w v h => ?_
    cases message with
    | none => exact h.checkAlive.bind fun _ _ _ _ h => ih h
    | some message =>
      refine (handleMessage_agree hx message h).bind fun r r' w v h => ?_
      match r, r', h with
      | .more _, .more _, h => exact ih h
      | .idle _, .idle _, h => exact h

/-! ## The whole unit -/

/-- **A unit is submitted and waited for under both limits.** -/
theorem runUnit_agree (hT : KeepsUp { submit := true } T) (k : Kernel)
    (unit : CodeUnit) (start : Float) (h : Abreast T m m' w v) :
    Agree (runUnit k .ignoring unit start) (runUnit k .ignoring unit start) w v
      (fun r r' w' v' => r.1 = r'.1 ∧ Taken T m m' r.2 r'.2 w' v') (BreaksOff T m m') := by
  unfold runUnit
  refine (h.step (submit_built k unit.source) (plain_submit k unit.source) hT).bind ?_
  rintro ⟨request, polls⟩ _ w v ⟨rfl, h⟩
  rw [agree_world_bind]
  have htimeout : w.handle.config.executionTimeout = v.handle.config.executionTimeout :=
    (congrArg (fun u : World => u.handle.config.executionTimeout) h.view :)
  obtain ⟨hlimit, hlimit'⟩ := h.limit
  dsimp only
  rw [hlimit, hlimit', htimeout]
  have htaken : Taken T m m' { collector := { limit := m } } { collector := { limit := m' } }
      w v := by
    rw [← Unlimited.limitedTo_start, ← Unlimited.limitedTo_start]
    exact .intro Unlimited.singleLines_start (h.of_trace (.start h.trace))
  exact (drain_agree rfl polls htaken).bind fun _ _ _ _ h => ⟨rfl, h⟩

/-- **A unit is executed alike under two limits**: it ends with results that differ in nothing but
the limit, or it fails alike. -/
theorem execute_agree (hT : KeepsUp { submit := true } T) (k : Kernel) (task : Text)
    (unit : CodeUnit) (h : Abreast T m m' w v) :
    Agree (execute k .ignoring task unit) (execute k .ignoring task unit) w v
      (fun r r' w' v' => r.Alike m m' r' ∧ ∃ lines, Abreast (Unfolds T m m' lines) m m' w' v')
      (BreaksOff T m m') := by
  have hstate : v.handle.state = w.handle.state :=
    (congrArg (fun u : World => u.handle.state) h.view.symm :)
  have hkernel : v.handle.config.kernel = w.handle.config.kernel :=
    (congrArg (fun u : World => u.handle.config.kernel) h.view.symm :)
  have hclock : v.clock = w.clock := (congrArg World.clock h.view.symm :)
  have hresumed : Unseen fun w => { w with
      handle := if w.handle.state = .executing
        then { w.handle with state := .connected } else w.handle } := by
    refine .changeHandle (f := fun h =>
      if h.state = .executing then { h with state := .connected } else h) fun h limit => ?_
    by_cases hs : h.state = .executing
    · simp [hs, Handle.withLimit]
    · simp [hs, Handle.withLimit]
  unfold execute
  rw [agree_world_bind, hstate, hkernel, hclock]
  split
  · have hrecorded := fun l s t => h.step (p := {}) (.record l s t) (fun _ => trivial)
      (hT.mono (by decide))
    refine (hrecorded _ _ _).same_bind fun _ w v h => ?_
    rw [agree_changeHandle_bind]
    -- whatever comes of the unit, the handle is connected again
    have hbegun := h.unseen (.changeHandle (f := fun h => { h with state := .executing })
      fun _ _ => rfl)
    refine (runUnit_agree hT k unit _ hbegun).attempt_bind ?_ ?_
    · rintro ⟨x, c⟩ ⟨_, c'⟩ w v ⟨rfl, hlines, h⟩
      rw [agree_changeHandle_bind, ofExcept_ok_bind, ofExcept_ok_bind]
      refine (makeResult_agree x (.intro hlines (h.unseen hresumed))).bind ?_
      rintro r r' w v ⟨hr, h⟩
      dsimp only
      split
      · exact ⟨.code _ hr, h.abreast⟩
      · exact ⟨hr, h.abreast⟩
    · rintro e e' w v ⟨he, lines, h⟩
      rw [agree_changeHandle_bind, ofExcept_error_bind, ofExcept_error_bind]
      exact ⟨he, lines, h.unseen hresumed⟩
  · exact ⟨.other rfl, [], h.of_trace (.start h.trace)⟩

end Session

end KernelJob
