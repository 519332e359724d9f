import KernelJob.Proofs.Session.Clean
import KernelJob.Proofs.Session.Drain

/-! # Clean units

A unit that a clean kernel executes has a clean result or fails in clean words, and so do the
connection to that kernel and its end.

* **`Execution.Clean`** — a clean kernel, a receiver that prints, a request with a clean name.
* **`drain_clean`** — what is captured while a clean kernel is waited for is clean.
* **`execute_clean`** — the result of a unit is clean.
* **`connect_clean`**, **`close_clean`** — so is what is said of a connection. -/

namespace KernelJob

open KernelJob.Action

/-- The request is answered with clean messages. -/
theorem Kernel.clean_idleMessage {request : Text} (h : request.Clean) :
    (idleMessage request).Clean := by
  simp [idleMessage, h]

/-- All that comes of a clean response is clean. -/
theorem Response.Clean.allPolls {r : Response} (h : r.Clean) :
    ∀ p ∈ r.allPolls, p.delivery.Clean := by
  unfold Response.allPolls
  split
  · exact h.polls
  · rw [List.forall_mem_append, List.forall_mem_singleton]
    exact ⟨h.polls, fun _ hrequest => Kernel.clean_idleMessage hrequest⟩

/-- A clean kernel has a clean response to everything. -/
theorem Kernel.Clean.responseTo {k : Kernel} (h : k.Clean) (number : Nat) (code : Text) :
    (k.responseTo number code).Clean := by
  unfold Kernel.responseTo
  cases hfind : (k.ownResponses number ++ k.responses).find? (·.code == code) with
  | none => exact ⟨nofun, nofun⟩
  | some r =>
    rcases List.mem_append.mp (List.mem_of_find?_eq_some hfind) with hown | hr
    · exact h.ownResponses number r hown
    · exact h.responses r hr

namespace Session

variable {x : Execution} {c : Captured} {k : Kernel} {w : World}

/-! ## Calls -/

/-- An error of a clean kernel is a failure in clean words. -/
theorem raiseKernel_clean (hk : k.Clean) {e : Option KernelError} (he : e ∈ k.errors)
    (hw : w.Clean) : (raiseKernel e).Ensures w (fun _ => World.Clean) Failure.CleanIn := by
  cases e with
  | none => exact hw
  | some e => exact ⟨Failure.clean_kernel (hk.errors _ he e rfl), hw⟩

/-- A call to a clean kernel ends well or in clean words. -/
theorem call_clean (hk : k.Clean) (c : Call) {e : Option KernelError} (he : e ∈ k.errors)
    (hw : w.Clean) :
    (do call c; raiseKernel e).Ensures w (fun _ => World.Clean) Failure.CleanIn := by
  rw [ensures_bind, ensures_call]
  exact raiseKernel_clean hk he ⟨hw.kernel, hw.progress⟩

theorem interrupt_clean (hk : k.Clean) (hw : w.Clean) :
    (interrupt k).Ensures w (fun _ => World.Clean) Failure.CleanIn := by
  unfold interrupt
  rw [ensures_bind, ensures_world]
  dsimp only
  split
  · rw [ensures_bind, ensures_attempt]
    refine (call_clean hk .interruptKernel (by simp [Kernel.errors]) hw).mono ?_ ?_
    · exact fun _ _ hw => ⟨hw.kernel, hw.progress⟩
    · intro e w' he
      dsimp only
      split
      · exact ⟨he.2.kernel, he.2.progress⟩
      · exact he
  · exact ⟨hw.kernel, hw.progress⟩

/-! ## Waiting -/

/-- **A clean execution**: a clean kernel, a receiver that prints, a request with a clean name. -/
structure Execution.Clean (x : Execution) : Prop where
  sink : x.sink.Prints
  kernel : x.kernel.Clean
  request : x.request.Clean

/-- The result of what was captured is clean. -/
theorem makeResult_clean (x : Execution) (hc : c.CleanIn w) :
    (makeResult x c).Ensures w (fun r w' => r.Clean ∧ w'.Clean) Failure.CleanIn := by
  unfold makeResult
  rw [ensures_bind, ensures_world]
  split
  · refine ⟨⟨hc.1.collector.text, ?_⟩, hc.2⟩
    rw [resultOf]
    cases hfault : c.fault with
    | none => exact Text.clean_nil
    | some fault => exact hc.1.fault fault hfault
  · exact ⟨.of_message (WholeFault.clean_message _) rfl, hc.2⟩

/-- A turn goes on, or the wait ends in clean words. -/
theorem checkTurn_clean (hx : x.Clean) (hc : c.CleanIn w) :
    (checkTurn x c).Ensures w (fun _ => World.Clean) Failure.CleanIn := by
  unfold checkTurn
  rw [ensures_bind, ensures_world]
  dsimp only
  split
  · refine (interrupt_clean hx.kernel hc.2).bind fun _ w' hw' => ?_
    exact ⟨.of_message (CancelPoint.duringUnit x.unit).clean_message rfl, hw'⟩
  split
  · exact hc.2
  rename_i seconds _
  split
  · -- the unit ends with what was captured so far and the error of its deadline
    refine (interrupt_clean hx.kernel hc.2).bind fun _ w' hw' => ?_
    refine (collectFlush_clean hx.sink ⟨hc.1, hw'⟩).bind fun c w' hc => ?_
    have hlate : Captured.CleanIn { c with fault := some (.ofTimeout seconds) } w' :=
      ⟨⟨hc.1.collector, fun _ hf => Option.some.inj hf ▸ CodeFault.clean_ofTimeout _⟩, hc.2⟩
    refine (makeResult_clean x hlate).bind fun r w' hr => ?_
    exact ⟨⟨CodeFault.clean_ofTimeout _, fun _ h => Option.some.inj h ▸ hr.1⟩, hr.2⟩
  · exact hc.2

/-- A message of a clean kernel is clean. -/
theorem receive_clean (hx : x.Clean) {p : Poll} (hp : p.delivery.Clean) (hw : w.Clean) :
    (receive x p).Ensures w (fun message? w' => (∀ m, message? = some m → m.Clean) ∧ w'.Clean)
      Failure.CleanIn := by
  have hpolled : World.Clean { w.push (.poll p) with clock := p.clockAfter w.clock } :=
    ⟨hw.kernel, hw.progress⟩
  rw [Ensures, receive_apply]
  show Ensures (deliver x p.delivery) _ _ _
  cases hdelivery : p.delivery with
  | message toRequest =>
    rw [hdelivery] at hp
    refine ⟨?_, hpolled⟩
    rintro _ ⟨⟩
    -- the message names the request, which is why its name has to be clean
    exact hp x.request hx.request
  | empty => exact ⟨nofun, hpolled⟩
  | death => exact ⟨nofun, hpolled.kernel, hpolled.progress⟩
  | cancel => exact ⟨nofun, hpolled.kernel, hpolled.progress⟩
  | failure e =>
    rw [hdelivery] at hp
    have he : e.Clean := hp
    rw [deliver]
    split
    · refine ⟨.of_message ?_ rfl, hpolled⟩
      simp [Failure.message, TransportFault.message, he.message]
    · exact ⟨Failure.clean_kernel he, hpolled⟩

/-- A kernel is found alive, or dead under its clean name. -/
theorem checkAlive_clean (hw : w.Clean) :
    checkAlive.Ensures w (fun _ => World.Clean) Failure.CleanIn := by
  unfold checkAlive
  rw [ensures_bind, ensures_world]
  split
  · exact hw
  · refine ⟨.of_message ?_ rfl, hw⟩
    simp [Failure.message, TransportFault.message, hw.kernel]

theorem drainSilence_clean (hx : x.Clean) (waits : Nat) (hc : c.CleanIn w) :
    (drainSilence x c waits).Ensures w Captured.CleanIn Failure.CleanIn := by
  induction waits generalizing w with
  | zero =>
    refine (checkTurn_clean hx hc).bind fun _ w' hw' => ?_
    simp only [ensures_bind, ensures_advance, ensures_change]
    exact Ensures.mono (checkAlive_clean ⟨hw'.kernel, hw'.progress⟩) (fun _ _ hw => ⟨hc.1, hw⟩)
      fun _ _ he => he
  | succ waits ih =>
    refine (checkTurn_clean hx hc).bind fun _ w' hw' => ?_
    rw [ensures_bind, ensures_advance]
    exact Ensures.bind (checkAlive_clean ⟨hw'.kernel, hw'.progress⟩) fun _ _ hw => ih ⟨hc.1, hw⟩

/-- **What is captured while a clean kernel is waited for is clean.** -/
theorem drain_clean (hx : x.Clean) {polls : List Poll} (hpolls : ∀ p ∈ polls, p.delivery.Clean)
    (hc : c.CleanIn w) : (drain x c polls).Ensures w Captured.CleanIn Failure.CleanIn := by
  -- what was captured and the world are clean before every poll; silence follows the last one
  induction polls generalizing c w with
  | nil => exact drainSilence_clean hx _ hc
  | cons p ps ih =>
    obtain ⟨hp, hps⟩ := List.forall_mem_cons.mp hpolls
    refine (checkTurn_clean hx hc).bind fun _ w' hw' => ?_
    refine (receive_clean hx hp hw').bind fun message? w' hmessage => ?_
    cases message? with
    | none => exact (checkAlive_clean hmessage.2).bind fun _ _ hw => ih hps ⟨hc.1, hw⟩
    | some message =>
      have hm := hmessage.1 message rfl
      refine (handleMessage_clean hx.sink hm ⟨hc.1, hmessage.2⟩).bind fun progressed w' hp => ?_
      cases progressed with
      | more c => exact ih hps hp
      | idle c => exact hp

/-! ## Units -/

/-- A request has a clean name, and a clean kernel answers it with clean messages. -/
theorem submit_clean (hk : k.Clean) (source : Text) (hw : w.Clean) :
    (submit k source).Ensures w
      (fun r w' => (r.1.Clean ∧ ∀ p ∈ r.2, p.delivery.Clean) ∧ w'.Clean) Failure.CleanIn := by
  have hresponse := hk.responseTo (w.requests + 1) source
  unfold submit
  simp only [ensures_bind, ensures_call, ensures_change, ensures_world]
  split
  · rename_i e he
    have hclean := hresponse.error e he
    split
    · refine ⟨.of_message ?_ rfl, hw.kernel, hw.progress⟩
      simp [Failure.message, TransportFault.message, hclean.message]
    · exact ⟨Failure.clean_kernel hclean, hw.kernel, hw.progress⟩
  · refine ⟨⟨?_, hresponse.allPolls⟩, hw.kernel, hw.progress⟩
    simp

theorem runUnit_clean (hk : k.Clean) {sink : Sink} (hs : sink.Prints) (unit : CodeUnit)
    (start : Float) (hw : w.Clean) :
    (runUnit k sink unit start).Ensures w (fun r => r.2.CleanIn) Failure.CleanIn := by
  unfold runUnit
  refine (submit_clean hk unit.source hw).bind ?_
  rintro ⟨request, polls⟩ w' ⟨⟨hrequest, hpolls⟩, hw'⟩
  rw [ensures_bind, ensures_world]
  have hnothing (limit : Int) : Captured.Clean { collector := { limit := limit } } :=
    ⟨⟨List.forall_mem_nil _, Text.clean_nil⟩, fun _ h => by cases h⟩
  exact Ensures.bind (drain_clean ⟨hs, hk, hrequest⟩ hpolls ⟨hnothing _, hw'⟩) fun _ _ hc => hc

/-- **The result of a unit is clean**, and so is what is said if it fails. -/
theorem execute_clean (hk : k.Clean) {sink : Sink} (hs : sink.Prints) (task : Text)
    (unit : CodeUnit) (hw : w.Clean) :
    (execute k sink task unit).Ensures w (fun r w' => r.Clean ∧ w'.Clean) Failure.CleanIn := by
  -- the state of the handle, which is changed at the end, says nothing
  have hended {w : World} (hw : w.Clean) : World.Clean { w with handle :=
      if w.handle.state = .executing then { w.handle with state := .connected }
      else w.handle } := by
    refine ⟨?_, hw.progress⟩
    dsimp only
    split <;> exact hw.kernel
  unfold execute
  rw [ensures_bind, ensures_world]
  split
  · rw [ensures_bind, ensures_record, ensures_bind, ensures_changeHandle, ensures_bind,
      ensures_attempt]
    refine Ensures.mono (runUnit_clean hk hs unit w.clock ⟨hw.kernel, hw.progress⟩) ?_ ?_
    · rintro ⟨x, c⟩ w' hc
      rw [ensures_bind, ensures_changeHandle, ensures_bind, ensures_ofExcept]
      dsimp only
      refine (makeResult_clean x ⟨hc.1, hended hc.2⟩).bind fun r w' hr => ?_
      split
      · rename_i fault hfault
        exact ⟨⟨hc.1.fault fault hfault, fun _ h => Option.some.inj h ▸ hr.1⟩, hr.2⟩
      · exact hr
    · intro e w' he
      exact ⟨he.1, hended he.2⟩
  · refine ⟨.of_message ?_ rfl, hw⟩
    have hname : w.handle.state.name.Clean := by
      cases w.handle.state <;> exact Text.clean_ofString _
    simp [Failure.message, TransportFault.message, hname]

/-! ## Letting a kernel go -/

/-- What is said of a step of a release is clean. -/
theorem releaseStep_clean {step : Action Unit} {done failed diagnostic : Text}
    (hd : diagnostic.Clean)
    (hstep : step.Ensures w (fun _ => World.Clean) Failure.CleanIn) :
    (releaseStep step done failed diagnostic).Ensures w
      (fun ms w' => (∀ m ∈ ms, m.Clean) ∧ w'.Clean) Failure.CleanIn := by
  unfold releaseStep
  rw [ensures_bind, ensures_attempt]
  refine hstep.mono ?_ ?_
  · exact fun _ _ hw => ⟨List.forall_mem_nil _, hw.kernel, hw.progress⟩
  · intro e w' he
    dsimp only
    split
    · refine ⟨?_, he.2.kernel, he.2.progress⟩
      rw [List.forall_mem_singleton]
      exact Text.clean_append.mpr ⟨hd, he.1.message⟩
    · exact he

theorem shutdownKernel_clean (hk : k.Clean) (hw : w.Clean) :
    (shutdownKernel k).Ensures w (fun _ => World.Clean) Failure.CleanIn := by
  have hmem : k.shutdownError ∈ k.errors := by simp [Kernel.errors]
  have hcall := call_clean hk .shutdownKernel hmem hw
  rw [ensures_bind] at hcall
  unfold shutdownKernel
  rw [ensures_bind]
  refine hcall.mono (fun _ w' hw' => ?_) fun _ _ he => he
  rw [ensures_bind]
  exact hw'.mono (fun _ _ hw => ⟨hw.kernel, hw.progress⟩) fun _ _ he => he

theorem releaseManager_clean (hk : k.Clean) (kernel : Text) (manager : Option Manager)
    (hw : w.Clean) :
    (releaseManager k kernel manager).Ensures w (fun ms w' => (∀ m ∈ ms, m.Clean) ∧ w'.Clean)
      Failure.CleanIn := by
  cases manager with
  | none => exact ⟨List.forall_mem_nil _, hw⟩
  | some manager =>
    have hcleanup {w : World} {ms : List Text} (hms : ∀ m ∈ ms, m.Clean) (hw : w.Clean) :
        (do
          let clean ← releaseStep (cleanupResources k)
            ("Cleaned up resources of kernel '" ++ kernel ++ "'")
            "Error cleaning up resources: " "Error cleaning up kernel resources: "
          return ms ++ clean).Ensures w (fun ms w' => (∀ m ∈ ms, m.Clean) ∧ w'.Clean)
            Failure.CleanIn := by
      refine (releaseStep_clean (Text.clean_ofString _)
        (call_clean hk _ (by simp [Kernel.errors]) hw)).bind fun clean w' hclean => ?_
      exact ⟨List.forall_mem_append.mpr ⟨hms, hclean.1⟩, hclean.2⟩
    rw [releaseManager]
    dsimp only
    split
    · exact (releaseStep_clean (Text.clean_ofString _) (shutdownKernel_clean hk hw)).bind
        fun _ _ hdown => hcleanup hdown.1 hdown.2
    · exact hcleanup (List.forall_mem_nil _) hw

/-- **What is said of a release is clean.** -/
theorem release_clean (hk : k.Clean) (hw : w.Clean) :
    (release k).Ensures w (fun ms w' => (∀ m ∈ ms, m.Clean) ∧ w'.Clean) Failure.CleanIn := by
  have hclosed : World.Clean { w with handle := { w.handle with state := .closed } } :=
    ⟨hw.kernel, hw.progress⟩
  have hmanaged {w : World} {ms : List Text} (kernel : Text) (manager : Option Manager)
      (hms : ∀ m ∈ ms, m.Clean) (hw : w.Clean) :
      (do
        let managed ← releaseManager k kernel manager
        return ms ++ managed).Ensures w (fun ms w' => (∀ m ∈ ms, m.Clean) ∧ w'.Clean)
          Failure.CleanIn := by
    refine (releaseManager_clean hk kernel manager hw).bind fun managed w' hmanaged => ?_
    exact ⟨List.forall_mem_append.mpr ⟨hms, hmanaged.1⟩, hmanaged.2⟩
  unfold release
  rw [ensures_bind, ensures_changeHandle, ensures_bind, ensures_world]
  dsimp only
  split
  · exact (releaseStep_clean (Text.clean_ofString _)
      (call_clean hk _ (by simp [Kernel.errors]) hclosed)).bind
        fun _ _ hstopped => hmanaged _ _ hstopped.1 hstopped.2
  · exact hmanaged _ _ (List.forall_mem_nil _) hclosed

theorem close_clean (hk : k.Clean) (hw : w.Clean) :
    (close k).Ensures w (fun ms w' => (∀ m ∈ ms, m.Clean) ∧ w'.Clean) Failure.CleanIn := by
  unfold close
  rw [ensures_bind, ensures_world]
  split
  · exact ⟨List.forall_mem_nil _, hw⟩
  · exact release_clean hk hw

/-! ## Connecting -/

variable {config : RunConfig}

theorem attach_clean (hk : k.Clean) (file : Path) (hw : w.Clean) :
    (attach k file).Ensures w (fun _ => World.Clean) Failure.CleanIn := by
  unfold attach
  rw [ensures_bind, ensures_record, ensures_bind, ensures_call]
  exact call_clean hk _ (by simp [Kernel.errors]) ⟨hw.kernel, hw.progress⟩

theorem start_clean (hk : k.Clean) (hkernel : config.kernel.Clean) (hw : w.Clean) :
    (start k config).Ensures w (fun _ => World.Clean) Failure.CleanIn := by
  unfold start launchDirectory
  simp only [ensures_bind, ensures_record, ensures_call, ensures_changeHandle, ensures_world]
  split
  · rename_i fault _
    exact ⟨.of_message fault.clean_message rfl, hw.kernel, hw.progress⟩
  rw [ensures_pure]
  split
  · exact ⟨Failure.clean_kernel hkernel, hw.kernel, hw.progress⟩
  rw [ensures_bind]
  refine Ensures.mono (raiseKernel_clean hk ?_ ⟨hw.kernel, hw.progress⟩) ?_ fun _ _ he => he
  · simp [Kernel.errors]
  · exact fun _ _ hw => ⟨hw.kernel, hw.progress⟩

theorem join_clean (hk : k.Clean) (config : RunConfig) (hw : w.Clean) :
    (join k config).Ensures w (fun _ => World.Clean) Failure.CleanIn := by
  unfold join waitForReady
  simp only [ensures_bind, ensures_call, ensures_changeHandle]
  refine Ensures.mono (raiseKernel_clean hk ?_ ⟨hw.kernel, hw.progress⟩) ?_ fun _ _ he => he
  · simp [Kernel.errors]
  · intro _ w' hw'
    split
    · rw [ensures_bind, ensures_cancel]
      exact raiseKernel_clean hk (by simp [Kernel.errors]) ⟨hw'.kernel, hw'.progress⟩
    · exact raiseKernel_clean hk (by simp [Kernel.errors]) ⟨hw'.kernel, hw'.progress⟩

/-- The steps of connecting fail in clean words only. -/
theorem connectSteps_clean (hk : k.Clean) (hkernel : config.kernel.Clean) (hw : w.Clean) :
    (connectSteps k config).Ensures w (fun _ => World.Clean) Failure.CleanIn := by
  unfold connectSteps
  split
  · exact (attach_clean hk _ hw).bind fun _ _ hw => join_clean hk config hw
  · exact (start_clean hk hkernel hw).bind fun _ _ hw => join_clean hk config hw

/-- The reason of a failed connection is clean. -/
theorem clean_connectReason? (hkernel : config.kernel.Clean) {e : Failure} (he : e.Clean)
    {reason : Text} (h : connectReason? config e = some reason) : reason.Clean := by
  unfold connectReason? at h
  split at h
  · rename_i error
    have hmessage : error.message.Clean := he.message
    split at h <;> cases h
    · simp [hkernel]
    · simp [hmessage]
    · simp [hmessage]
    · simp [hmessage]
    · simp [hmessage]
    · simp [hmessage]
  · split at h <;> cases h
    simp
  · cases h

/-- Abandoning a connection ends in clean words. -/
theorem abandon_clean (hk : k.Clean) (hkernel : config.kernel.Clean) {e : Failure}
    (he : e.CleanIn w) :
    (abandon k config e).Ensures w (fun _ => World.Clean) Failure.CleanIn := by
  unfold abandon
  split
  · rename_i reason hreason
    refine (release_clean hk he.2).bind fun _ _ hreleased => ⟨.of_message ?_ rfl, hreleased.2⟩
    have hclean := clean_connectReason? hkernel he.1 hreason
    simp [Failure.message, hkernel, hclean]
  · split
    · exact he
    · exact (release_clean hk he.2).bind fun _ _ hreleased => ⟨he.1, hreleased.2⟩

/-- **Connecting to a clean kernel** succeeds or fails in clean words. -/
theorem connect_clean (hk : k.Clean) (hkernel : config.kernel.Clean) (hw : w.Clean) :
    (connect k config).Ensures w (fun _ => World.Clean) Failure.CleanIn := by
  unfold connect
  rw [ensures_bind, ensures_world, ensures_bind, ensures_changeHandle, ensures_bind,
    ensures_attempt]
  refine Ensures.mono (connectSteps_clean hk hkernel ⟨hkernel, hw.progress⟩) ?_ ?_
  · exact fun _ _ hw' => ⟨hw'.kernel, hw'.progress⟩
  · intro e w' he
    dsimp only
    rw [ensures_bind, ensures_attempt]
    -- the handle is put back as it was, so that the name in use is that from before
    refine (abandon_clean hk hkernel he).mono ?_ ?_
    · exact fun _ _ hw' => ⟨hw.kernel, hw'.progress⟩
    · exact fun _ _ he' => ⟨he'.1, hw.kernel, he'.2.progress⟩

end Session

end KernelJob
