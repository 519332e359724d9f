import KernelJob.Proofs.Session.Connect

/-! # What a connection has started

A handle that is connected to the kernel of a connection file has no manager. A handle with a
manager has a kernel only after that was started without an error.

* **`Kernel.Starts`** — a kernel that can be started.
* **`Session.Owned`** — a handle that has no more than what was started for it.
* **`Session.Undoes`** — a release that undoes no more than what was done before it.
* **`Session.connect_owns`** — connecting as a whole: a handle that owns what it has, or a release
  that undoes no more than what was begun. -/

namespace KernelJob

/-- **A kernel that can be started**: it is known, and starting it ends without an error. -/
def Kernel.Starts (k : Kernel) (config : RunConfig) : Prop :=
  k.known.contains config.kernel = true ∧ k.startError = none

namespace Session

open KernelJob.Action ReleaseStep

variable {k : Kernel} {config : RunConfig} {w₀ w : World} {h : Handle}

/-! ## The steps -/

/-- **A handle that owns what it has**: it has a manager only if no connection file is given, and a
kernel only if one was started, by a call since `w₀`. -/
structure Owned (k : Kernel) (config : RunConfig) (w₀ w : World) : Prop where
  manager : w.handle.manager.isSome = true → config.connectionFile = none
  kernel : ∀ m, w.handle.manager = some m → m.hasKernel = true →
    k.Starts config ∧ ∃ directory, .startKernel directory ∈ World.callsSince w₀ w

namespace Owned

/-- A handle without a manager has nothing. -/
theorem of_none (hm : w.handle.manager = none) : Owned k config w₀ w := by
  refine ⟨fun h => ?_, fun m h => ?_⟩
  · rw [hm] at h
    cases h
  · rw [hm] at h
    cases h

/-- Whatever is called next, a handle owns what it has as long as it has the same manager. -/
theorem mono {v : World} {cs : List Call} (h : Owned k config w₀ v)
    (hm : w.handle.manager = v.handle.manager) (hcalls : w.calls = v.calls ++ cs) :
    Owned k config w₀ w := by
  refine ⟨by rw [hm]; exact h.manager, fun m hm' hkernel => ?_⟩
  rw [hm] at hm'
  obtain ⟨hstarts, directory, hcall⟩ := h.kernel m hm' hkernel
  exact ⟨hstarts, directory, World.callsSince_subset w₀ hcalls hcall⟩

theorem push (h : Owned k config w₀ w) (e : Event) : Owned k config w₀ (w.push e) :=
  h.mono rfl (World.calls_push w e)

/-- Of the earlier world only its calls matter. -/
theorem congr {v : World} (h : Owned k config w₀ w) (hv : w₀.calls = v.calls) :
    Owned k config v w := by
  refine ⟨h.manager, fun m hm hkernel => ?_⟩
  have hstarted := h.kernel m hm hkernel
  rw [World.callsSince, hv] at hstarted
  exact hstarted

/-- It makes no difference to what a handle owns whether the run is cancelled. -/
theorem cancel (h : Owned k config w₀ w) :
    Owned k config w₀ ({ w with cancelled := true }.push .cancel) :=
  push (w := { w with cancelled := true }) ⟨h.manager, h.kernel⟩ .cancel

end Owned

/-- Attaching gives the handle no manager. -/
theorem attach_owns (file : Path) (hm : w.handle.manager = none) :
    (attach k file).Ensures w (fun _ => Owned k config w₀) (fun _ => Owned k config w₀) := by
  unfold attach
  simp only [ensures_bind, ensures_record, ensures_call, ensures_raiseKernel]
  split
  · exact .of_none hm
  · exact .of_none hm

/-- Starting gives the handle a kernel only at its end. -/
theorem start_starts (k : Kernel) (config : RunConfig) (w : World) :
    (start k config).Ensures w (fun _ _ => k.Starts config)
      (fun _ w' => w'.handle.manager = some {}) := by
  unfold start launchDirectory
  simp only [ensures_bind, ensures_record, ensures_call, ensures_changeHandle, ensures_world]
  split
  · rfl
  rw [ensures_pure]
  split
  · rfl
  rename_i hknown
  rw [ensures_bind, ensures_raiseKernel]
  split
  · rfl
  rename_i hstart
  rw [Bool.not_eq_true', Bool.not_eq_false] at hknown
  exact ⟨hknown, hstart⟩

theorem start_owns (hf : config.connectionFile = none) (hw : Reached w₀ h [] w) :
    (start k config).Ensures w (fun _ => Owned k config w₀) (fun _ => Owned k config w₀) := by
  refine ((start_ensures hf hw).and (start_starts k config w)).mono ?_ ?_
  · rintro _ w' ⟨⟨directory, hw'⟩, hstarts⟩
    refine ⟨fun _ => hf, fun m _ _ => ⟨hstarts, directory, ?_⟩⟩
    rw [World.callsSince_eq hw'.calls]
    simp
  · -- the manager has no kernel yet
    rintro e w' ⟨-, hm⟩
    refine ⟨fun _ => hf, fun m hm' hkernel => ?_⟩
    rw [hm] at hm'
    obtain rfl : ({} : Manager) = m := Option.some.inj hm'
    cases hkernel

/-- Joining leaves the manager as it is, and succeeds only if the kernel is ready. -/
theorem join_owns (hw : Owned k config w₀ w) :
    (join k config).Ensures w (fun _ w' => Owned k config w₀ w' ∧ k.readyError = none)
      (fun _ => Owned k config w₀) := by
  have hclient : Owned k config w₀ { w with handle := { w.handle with hasClient := true } } :=
    ⟨hw.manager, hw.kernel⟩
  have hchannels := hclient.push (.call .startChannels)
  have hready := hchannels.push (.call (.waitForReady config.launchTimeout))
  unfold join
  rw [ensures_bind, ensures_changeHandle, ensures_bind, ensures_call, ensures_bind,
    ensures_raiseKernel]
  split
  · exact hchannels
  unfold waitForReady
  rw [ensures_bind, ensures_call]
  split
  · rw [ensures_bind, ensures_cancel, ensures_raiseKernel]
    split
    · exact hready.cancel
    · exact ⟨hready.cancel, by assumption⟩
  · rw [ensures_raiseKernel]
    split
    · exact hready
    · exact ⟨hready, by assumption⟩

/-- **The steps of connecting** give the handle no more than what they start, and succeed only if
the kernel is ready. -/
theorem connectSteps_owns (k : Kernel) (hw : Reached w₀ { config := config } [] w) :
    (connectSteps k config).Ensures w
      (fun _ w' => Owned k config w₀ w' ∧ k.readyError = none) (fun _ => Owned k config w₀) := by
  have hnone : w.handle.manager = none := by rw [hw.handle]
  unfold connectSteps
  rcases hf : config.connectionFile with _ | file
  · exact (start_owns hf hw).bind fun _ _ hw' => join_owns hw'
  · exact (attach_owns file hnone).bind fun _ _ hw' => join_owns hw'

/-! ## Connecting as a whole -/

/-- **A release that undoes no more than what was done** by the calls before it: its own calls are
in order, a kernel of a connection file is left alone, and a kernel is shut down only if it was
started. -/
structure Undoes (k : Kernel) (config : RunConfig) (work release : List Call) : Prop where
  order : release.Sublist [.stopChannels, .shutdownKernel, .cleanupResources]
  attached : config.connectionFile.isSome = true → release ⊆ [.stopChannels]
  started : .shutdownKernel ∈ release →
    k.Starts config ∧ ∃ directory, .startKernel directory ∈ work

/-- Nothing is undone. -/
theorem Undoes.nil (k : Kernel) (config : RunConfig) (work : List Call) :
    Undoes k config work [] :=
  ⟨List.nil_sublist _, fun _ => List.nil_subset _, fun h => absurd h List.not_mem_nil⟩

/-- A release makes calls of a release. -/
theorem Undoes.isRelease {work release : List Call} (h : Undoes k config work release) :
    ∀ c ∈ release, c.isRelease = true := by
  intro c hc
  have hmem := h.order.subset hc
  simp only [List.mem_cons, List.not_mem_nil, or_false] at hmem
  rcases hmem with rfl | rfl | rfl <;> rfl

/-- **Releasing a handle that owns what it has** undoes no more than what was done. -/
theorem Owned.undoes (hw : Owned k config w₀ w) :
    Undoes k config (World.callsSince w₀ w) (carriedOut (w.handle.releasePlan k)) := by
  have hcarried := carriedOut_sublist (w.handle.releasePlan k)
  refine ⟨hcarried.trans (w.handle.releasePlan_sublist k), fun hfile => ?_, fun hshutdown => ?_⟩
  · -- with a connection file there is no manager
    have hnone : w.handle.manager = none := by
      rcases hm : w.handle.manager with _ | m
      · rfl
      · rw [hw.manager (Option.isSome_of_eq_some hm)] at hfile
        cases hfile
    exact List.Subset.trans hcarried.subset
      (Handle.releasePlan_subset_of_manager_eq_none hnone k)
  · obtain ⟨m, hm, hkernel⟩ :=
      (w.handle.shutdownKernel_mem_releasePlan_iff k).mp (hcarried.subset hshutdown)
    exact hw.kernel m hm hkernel

/-- **Connecting** ends with a handle that owns what it has, whose kernel is ready. If it fails, it
has made a first part of its calls, and undone no more than what was done by them. -/
theorem connect_owns (k : Kernel) (config : RunConfig) (w : World) :
    (connect k config).Ensures w
      (fun _ w' => Owned k config w w' ∧ k.readyError = none)
      (fun _ w' => ∃ directory begun release, begun <+: connectCalls config directory ∧
        Undoes k config begun release ∧ w'.calls = w.calls ++ (begun ++ release)) := by
  have hstart : Reached w { config := config } [] { w with handle := { config := config } } :=
    ⟨rfl, (World.calls_congr (w := w) rfl).trans (List.append_nil _).symm, rfl, rfl⟩
  obtain ⟨hok, hfail⟩ := ensures_iff.mp
    ((connectSteps_owns k hstart).and (connectSteps_ensures k hstart))
  rw [ensures_iff]
  rcases hs : (connecting k config w).1 with e | _
  · -- a step failed: what it had begun is undone
    obtain ⟨⟨e', hfailed⟩, hcalls⟩ := connect_of_error hs
    obtain ⟨howned, h, directory, begun, hbegun, hreached⟩ := hfail e hs
    have hsince : World.callsSince w (connecting k config w).2 = begun :=
      World.callsSince_eq hreached.calls
    have hundoes : Undoes k config begun
        (abandonCalls k config e (connecting k config w).2.handle) := by
      rw [abandonCalls]
      split
      · rw [← hsince]
        exact howned.undoes
      · exact Undoes.nil k config begun
    refine ⟨fun _ hconnected => ?_, fun _ _ => ⟨directory, begun, _, hbegun, hundoes, ?_⟩⟩
    · rw [hfailed] at hconnected
      cases hconnected
    · rw [hcalls, ← List.append_assoc]
      exact congrArg (· ++ _) hreached.calls
  · obtain ⟨⟨howned, hready⟩, -⟩ := hok () hs
    have hconnecting : Owned k config w (connecting k config w).2 := howned
    have hconnect := connect_apply k config w
    rcases hv : connecting k config w with ⟨r, v⟩
    rw [hv] at hs hconnect hconnecting
    subst hs
    rw [hconnect]
    refine ⟨fun _ _ => ⟨Owned.push ?_ _, hready⟩, fun e he => ?_⟩
    · exact ⟨hconnecting.manager, hconnecting.kernel⟩
    · cases he

end Session

end KernelJob
