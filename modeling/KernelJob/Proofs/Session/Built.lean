import KernelJob.Proofs.Elementary
import KernelJob.Proofs.Session.Drain
import KernelJob.Session.Connect

/-! # How a session is built

The functions of a session, built from elementary steps, each within the powers that it needs. What
the elementary steps keep is kept by connecting and by waiting for a kernel as well, which are not
built from them: connecting sets the limit for lines of output, and waiting is a loop with an
invariant of its own.

* **`Session.release_built`**, **`Session.connectSteps_built`**, **`Session.receive_built`**,
  **`Session.submit_built`** — the powers of the parts of a session.
* **`Session.connect_keeps`**, **`Session.drain_keeps`** — what connecting and waiting keep. -/

namespace KernelJob.Session

open KernelJob.Action

variable {sink : Sink} {p : Powers} {I : World → Prop}

/-! ## Letting go -/

/-- A call that may end with an error. -/
theorem call_raiseKernel_built {c : Call} (hc : p.Allows (.call c)) (e : Option KernelError) :
    Built sink p (do call c; raiseKernel e) :=
  .bind (.call hc) fun _ => .raiseKernel e

/-- A step of a release is built as its action is. -/
theorem releaseStep_built {step : Action Unit} (hstep : Built sink p step)
    (done failed diagnostic : Text) : Built sink p (releaseStep step done failed diagnostic) := by
  unfold releaseStep
  refine .bind (.attempt hstep) fun outcome => ?_
  split
  · exact .bind (.record _ _ _) fun _ => .pure _
  split
  · exact .bind (.record _ _ _) fun _ => .pure _
  · exact .fail _

theorem shutdownKernel_built (k : Kernel) : Built sink { call := true } (shutdownKernel k) := by
  unfold shutdownKernel
  refine .bind (.call rfl) fun _ => .bind (.raiseKernel _) fun _ => ?_
  exact .changeHandle fun _ _ => rfl

/-- A step of a release that may be left out. -/
theorem orSkip_built {β : Type} {x : Action (List Text)} {f : List Text → Action β}
    (hx : Built sink p x) (hf : ∀ a, Built sink p (f a)) (asked : Bool) :
    Built sink p (if asked then x >>= f else pure [] >>= f) := by
  cases asked
  · exact .bind (.pure _) hf
  · exact .bind hx hf

theorem releaseManager_built (k : Kernel) (kernel : Text) (m : Option Manager) :
    Built sink { call := true } (releaseManager k kernel m) := by
  unfold releaseManager
  split
  · exact .pure _
  · refine orSkip_built (releaseStep_built (shutdownKernel_built k) _ _ _) (fun down => ?_) _
    refine .bind (releaseStep_built (call_raiseKernel_built (by rfl) _) _ _ _) fun _ => ?_
    exact .pure _

/-- **A release** makes calls. -/
theorem release_built (k : Kernel) : Built sink { call := true } (release k) := by
  unfold release
  refine .bind (.changeHandle fun _ _ => rfl) fun _ => .look (fun _ => rfl) fun w => ?_
  have hstop : Built sink { call := true } (stopChannels k) := call_raiseKernel_built (by rfl) _
  refine orSkip_built (releaseStep_built hstop _ _ _) (fun stopped => ?_) _
  exact .bind (releaseManager_built k _ _) fun _ => .pure _

/-- **Closing** makes calls. -/
theorem close_built (k : Kernel) : Built sink { call := true } (close k) := by
  unfold close
  refine .look (fun _ => rfl) fun w => ?_
  split
  · exact .pure _
  · exact release_built k

/-- **Interrupting a kernel** makes a call. -/
theorem interrupt_built (k : Kernel) : Built sink { call := true } (interrupt k) := by
  unfold interrupt
  refine .look (fun _ => rfl) fun w => ?_
  dsimp only
  split
  · refine .bind (.attempt (call_raiseKernel_built (by rfl) _)) fun outcome => ?_
    split
    · exact .record _ _ _
    split
    · exact .record _ _ _
    · exact .fail _
  · exact .record _ _ _

/-! ## Connecting -/

theorem attach_built (k : Kernel) (file : Path) :
    Built sink { call := true } (attach k file) := by
  unfold attach
  refine .bind (.record _ _ _) fun _ => .bind (.call rfl) fun _ => ?_
  exact call_raiseKernel_built (by rfl) _

theorem start_built (k : Kernel) (config : RunConfig) :
    Built sink { call := true } (start k config) := by
  have hmanager : ∀ m : Option Manager,
      Built sink { call := true } (changeHandle fun h => { h with manager := m }) :=
    fun _ => .changeHandle fun _ _ => rfl
  unfold start launchDirectory
  refine .bind (.record _ _ _) fun _ => .bind (.call rfl) fun _ => ?_
  refine .bind (hmanager _) fun _ => .bind ?_ fun directory => ?_
  · refine .look (fun _ => rfl) fun w => ?_
    split
    · exact .fail _
    · exact .pure _
  · refine .bind (.call rfl) fun _ => ?_
    have hstarted : Built sink { call := true } (do
        raiseKernel k.startError
        changeHandle fun h => { h with manager := some ⟨true⟩ }
        call .managerClient) :=
      .bind (.raiseKernel _) fun _ => .bind (hmanager _) fun _ => .call rfl
    split
    · exact .bind (.fail _) fun _ => hstarted
    · exact hstarted

/-- While the kernel gets ready the run may be cancelled. -/
theorem waitForReady_built (k : Kernel) (config : RunConfig) :
    Built sink { call := true, cancel := true } (waitForReady k config) := by
  unfold waitForReady
  refine .bind (.call rfl) fun _ => ?_
  split
  · exact .bind (.step (s := .cancel) rfl) fun _ => .raiseKernel _
  · exact .raiseKernel _

/-- **The steps of connecting** make calls, and meanwhile the run may be cancelled. -/
theorem connectSteps_built (k : Kernel) (config : RunConfig) :
    Built sink { call := true, cancel := true } (connectSteps k config) := by
  have hjoin : Built sink { call := true, cancel := true } (join k config) := by
    unfold join
    refine .bind (.changeHandle fun _ _ => rfl) fun _ => .bind (.call rfl) fun _ => ?_
    exact .bind (.raiseKernel _) fun _ => waitForReady_built k config
  unfold connectSteps
  split
  · exact .bind ((attach_built k _).mono (by decide)) fun _ => hjoin
  · exact .bind ((start_built k config).mono (by decide)) fun _ => hjoin

/-- **Abandoning a connection** makes calls. -/
theorem abandon_built (k : Kernel) (config : RunConfig) (e : Failure) :
    Built sink { call := true } (abandon k config e) := by
  unfold abandon
  split
  · exact .bind (release_built k) fun _ => .fail _
  split
  · exact .fail _
  · exact .bind (release_built k) fun _ => .fail _

/-- **What connecting keeps**: the handle in use is no matter of the trace. -/
theorem connect_keeps (h : KeptBy sink { call := true, cancel := true } I) (k : Kernel)
    (config : RunConfig) : Keeps I (connect k config) := by
  have hhandle : ∀ f, Keeps I (changeHandle f) := fun _ =>
    keeps_change fun _ hw => h.congr hw rfl rfl rfl
  unfold connect
  refine keeps_world.bind fun before => (hhandle _).bind fun _ => ?_
  refine ((connectSteps_built k config).keeps h).attempt.bind fun outcome => ?_
  split
  · exact (hhandle _).bind fun _ => (Built.record _ _ _).keeps h
  · refine ((abandon_built k config _).keeps (h.mono (by decide))).attempt.bind fun outcome => ?_
    exact (hhandle _).bind fun _ => keeps_ofExcept _

/-! ## Waiting -/

variable {x : Execution}

theorem makeResult_built (x : Execution) (c : Captured) : Built sink p (makeResult x c) := by
  unfold makeResult
  refine .look (fun _ => rfl) fun w => ?_
  split
  · exact .pure _
  · exact .fail _

theorem collect_built (step : OutputStep) (c : Captured) :
    Built x.sink { speak := true } (collect x step c) := by
  unfold collect
  exact .bind (.emitAll rfl _) fun _ => .pure _

/-- Saving an output changes files and what was saved. -/
theorem saveArtifact_built (data : Json) : Built sink p (saveArtifact x data) := by
  unfold saveArtifact
  refine .look (fun _ => rfl) fun w => ?_
  split
  · exact .pure _
  split
  · refine .bind (.change ?_) fun _ => ?_
    · exact ⟨fun _ => rfl, fun _ => rfl, fun _ => rfl, fun _ => rfl, fun _ => rfl, fun _ => rfl⟩
    split
    · exact .pure _
    · exact .bind (.record _ _ _) fun _ => .pure _
    · split
      · exact .bind (.record _ _ _) fun _ => .pure _
      · exact .fail _

/-- A turn that ends the wait makes a call and gives the open line to the receiver. -/
theorem checkTurn_built (c : Captured) :
    Built x.sink { speak := true, call := true } (checkTurn x c) := by
  have hinterrupt : Built x.sink { speak := true, call := true } (interrupt x.kernel) :=
    (interrupt_built x.kernel).mono (by decide)
  -- The deadline is looked at after the cancellation, and not at all if that ends the wait.
  have hcancelled (w : World) {d : Action Unit}
      (hd : Built x.sink { speak := true, call := true } d) :
      Built x.sink { speak := true, call := true } (if w.cancelled then do
        interrupt x.kernel
        fail (.cancelled (.duringUnit x.unit))
        d
      else d) := by
    split
    · exact .bind hinterrupt fun _ => .bind (.fail _) fun _ => hd
    · exact hd
  unfold checkTurn
  refine .look (fun _ => rfl) fun w => hcancelled w ?_
  split
  · exact .pure _
  split
  · refine .bind hinterrupt fun _ => .bind ((collect_built _ c).mono (by decide)) fun c => ?_
    exact .bind (makeResult_built x _) fun _ => .fail _
  · exact .pure _

theorem checkAlive_built : Built sink p checkAlive := by
  unfold checkAlive
  refine .look (fun _ => rfl) fun w => ?_
  split
  · exact .pure _
  · exact .fail _

theorem advance_built (seconds : Float) : Built sink p (advance seconds) :=
  .change ⟨fun _ => rfl, fun _ => rfl, fun _ => rfl, fun _ => rfl, fun _ => rfl, fun _ => rfl⟩

/-- **A poll** may bring the cancellation of the run or the death of the kernel. -/
theorem receive_built (p : Poll) :
    Built sink { cancel := true, wait := true } (receive x p) := by
  have hdeliver : Built sink { cancel := true, wait := true } (deliver x p.delivery) := by
    unfold deliver
    split
    · exact .pure _
    · exact .pure _
    · exact .bind (.step (s := .die _) rfl) fun _ => .pure _
    · exact .bind (.step (s := .cancel) rfl) fun _ => .pure _
    · split
      · exact .fail _
      · exact .fail _
  unfold receive
  refine .bind (.step (s := .poll p) rfl) fun _ => ?_
  rcases p.advance with _ | seconds
  · exact .bind (.pure ()) fun _ => hdeliver
  · exact .bind (advance_built seconds) fun _ => hdeliver

/-- **Submitting** makes one call. -/
theorem submit_built (k : Kernel) (source : Text) :
    Built sink { submit := true } (submit k source) := by
  unfold submit
  refine .bind (.call rfl) fun _ => .bind (.change ?_) fun _ => ?_
  · exact ⟨fun _ => rfl, fun _ => rfl, fun _ => rfl, fun _ => rfl, fun _ => rfl, fun _ => rfl⟩
  refine .look (fun _ => rfl) fun w => ?_
  dsimp only
  split
  · split
    · exact .bind (.fail _) fun _ => .pure _
    · exact .bind (.fail _) fun _ => .pure _
  · exact .pure _

/-- **What taking a message into account keeps.** -/
theorem capturing_keeps (h : KeptBy x.sink { speak := true } I) :
    Capturing x (fun _ => I) (fun _ => I) where
  collect step c _ hw := ((collect_built step c).keeps h).ensures hw
  fault _ _ _ hw := hw
  save data _ _ hw := ((saveArtifact_built data).keeps h).ensures hw
  misfit _ _ _ hw := hw

/-- The powers of waiting for a kernel. -/
def waiting : Powers := { speak := true, call := true, cancel := true, wait := true }

/-- All powers. -/
def everything : Powers := { waiting with submit := true }

/-- **What waiting for a kernel keeps.** -/
theorem drain_keeps (h : KeptBy x.sink waiting I) (c : Captured) (polls : List Poll) :
    Keeps I (drain x c polls) := by
  have hinvariant : Invariant x (fun _ => I) (fun _ => I) := {
    capturing_keeps (h.mono (by decide)) with
    turn := fun c _ hw => ((checkTurn_built c).keeps (h.mono (by decide))).ensures hw
    receive := fun p _ _ hw => ((receive_built p).keeps (h.mono (by decide))).ensures hw
    advance := fun _ _ _ hw => h.congr hw rfl rfl rfl
    die := fun said _ w hw => h.step (.die said) rfl w hw
    died := fun _ _ hw => hw }
  exact keeps_of_ensures fun _ hw => hinvariant.drain polls hw

end KernelJob.Session
