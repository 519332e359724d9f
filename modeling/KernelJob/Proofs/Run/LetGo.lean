import KernelJob.Proofs.Run.Closing

/-! # No kernel is left behind

A kernel that a run has started is shut down at the end of the run, whatever happens in between.

* **`Run.run_releases`** — a run that has reached its kernel carries out one release, at its end,
  and closes the handle.
* **`Run.LetGoOnce`** — a kernel is let go exactly once by some calls.
* **`Run.run_lets_go_once_iff`** — a run lets its kernel go exactly once if and only if the user
  does not interrupt the release. -/

namespace KernelJob

namespace Call

/-- Whether a call shuts a kernel down. -/
def isShutdown : Call → Bool
  | .shutdownKernel => true
  | _ => false

/-- Whether a call frees what a manager holds. -/
def isCleanup : Call → Bool
  | .cleanupResources => true
  | _ => false

end Call

namespace Run

open KernelJob.Action KernelJob.Session ReleaseStep

variable {s : Setting} {config : RunConfig} {w : World} {units : List CodeUnit}

/-! ## The release of a run -/

/-- A run that has reached its kernel works on its units, and closes. -/
theorem steps_of_approach (h : (approach s config w).1 = .ok (some units)) :
    steps s config w = closing s (runConnected s config units) (approach s config w).2 := by
  rw [steps, bind_apply]
  rcases ha : approach s config w with ⟨r, v⟩
  rw [ha] at h
  subst h
  rfl

/-- The release that a handle asks for is the same as long as the run is under way. -/
theorem UnderWay.releasePlan {v : World} (h : UnderWay v w) (k : Kernel) :
    w.handle.releasePlan k = v.handle.releasePlan k :=
  (congrArg (Handle.releasePlan k) h.connection :)

/-- **What a run does to the kernel it has reached**: after calls that release nothing it carries
out the release of an open handle, and the handle is closed. -/
theorem run_releases (h : (approach s config (begun config w)).1 = .ok (some units)) :
    (run s config w).2.handle.state = .closed ∧
      ∃ cs, (∀ c ∈ cs, c.isRelease = false) ∧ World.callsSince w (run s config w).2 =
        cs ++ carriedOut ((openHandle config).releasePlan s.kernel) := by
  have happroached := (ensures_iff.mp (approach_ensures s config (begun config w))).1 _ h
  obtain ⟨-, hhandle, -, directory, hcalls⟩ := happroached
  have hsteps := steps_of_approach h
  have hend := run_diagnosed s config w
  -- from here on only the world in which the kernel was reached matters
  generalize (approach s config (begun config w)).2 = v₁ at hhandle hcalls hsteps
  have hopen : v₁.handle.state = .connected := by rw [hhandle]; rfl
  obtain ⟨v₂, hunderway, hfinal⟩ :=
    closing_after s (runConnected_keeps s config units hopen) hopen
  rw [hsteps] at hend
  obtain ⟨cs, hcs, hrelease⟩ := hunderway.calls
  refine ⟨by rw [hend.handle, hfinal.closed], connectCalls config directory ++ cs, ?_, ?_⟩
  · rw [List.forall_mem_append]
    exact ⟨isRelease_connectCalls, hrelease⟩
  · have hbegun : (begun config w).calls = w.calls := World.calls_congr rfl
    rw [World.callsSince_eq]
    rw [hend.calls, hfinal.calls, hcs, hcalls, hbegun, hunderway.releasePlan, hhandle,
      List.append_assoc, List.append_assoc, List.append_assoc]

/-! ## Exactly once -/

/-- **A kernel that is let go exactly once** by some calls: it is shut down once, and what its
manager holds is freed once. -/
def LetGoOnce (calls : List Call) : Prop :=
  calls.countP Call.isShutdown = 1 ∧ calls.countP Call.isCleanup = 1

/-- Calls that release nothing do not count. -/
theorem letGoOnce_append {cs ds : List Call} (h : ∀ c ∈ cs, c.isRelease = false) :
    LetGoOnce (cs ++ ds) ↔ LetGoOnce ds := by
  -- a predicate that only calls of a release satisfy counts none of them
  have none_of : ∀ p : Call → Bool, (∀ c, p c = true → c.isRelease = true) → cs.countP p = 0 := by
    intro p hp
    rw [List.countP_eq_zero]
    intro c hc hpc
    have hrelease := hp c hpc
    rw [h c hc] at hrelease
    cases hrelease
  have hshutdown := none_of Call.isShutdown fun c hc => by cases c <;> first | rfl | cases hc
  have hcleanup := none_of Call.isCleanup fun c hc => by cases c <;> first | rfl | cases hc
  rw [LetGoOnce, LetGoOnce, List.countP_append, List.countP_append, hshutdown, hcleanup,
    Nat.zero_add, Nat.zero_add]

/-- The release of a kernel that was started here lets it go exactly once if and only if neither
stopping its channels nor shutting it down is interrupted. -/
theorem letGoOnce_carriedOut_iff (k : Kernel) (hstarted : config.connectionFile = none) :
    LetGoOnce (carriedOut ((openHandle config).releasePlan k)) ↔
      (∀ e, k.stopError = some e → e.isOrdinary = true) ∧
        ∀ e, k.shutdownError = some e → e.isOrdinary = true := by
  have hplan : (openHandle config).releasePlan k = [⟨.stopChannels, k.stopError⟩,
      ⟨.shutdownKernel, k.shutdownError⟩, ⟨.cleanupResources, k.cleanupError⟩] := by
    rw [openHandle, joinedHandle, if_pos hstarted]
    rfl
  have hstop := isInterrupted_eq_false_iff ⟨.stopChannels, k.stopError⟩
  have hshutdown := isInterrupted_eq_false_iff ⟨.shutdownKernel, k.shutdownError⟩
  rw [hplan, ← hstop, ← hshutdown]
  simp only [carriedOut]
  cases isInterrupted ⟨.stopChannels, k.stopError⟩
  · cases isInterrupted ⟨.shutdownKernel, k.shutdownError⟩
    · -- all steps are begun
      simp [LetGoOnce, List.countP_cons, Call.isShutdown, Call.isCleanup]
    · -- nothing is freed
      simp [LetGoOnce, Call.isShutdown, Call.isCleanup]
  · -- nothing is shut down
    simp [LetGoOnce, Call.isShutdown, Call.isCleanup]

/-- **No kernel is left behind.** A run that has reached a kernel of its own ends with a closed
handle. It lets the kernel go exactly once if and only if neither stopping the channels nor
shutting down is interrupted by the user. Closing completes if and only if the handle is closed
already or no step of its release is interrupted. -/
theorem run_lets_go_once_iff (s : Setting) {config : RunConfig} {w : World} {units : List CodeUnit}
    (happroach : (approach s config (begun config w)).1 = .ok (some units))
    (hstarted : config.connectionFile = none) :
    (run s config w).2.handle.state = .closed ∧
    (LetGoOnce (World.callsSince w (run s config w).2) ↔
      (∀ e, s.kernel.stopError = some e → e.isOrdinary = true) ∧
        ∀ e, s.kernel.shutdownError = some e → e.isOrdinary = true) ∧
    ∀ v, (∃ messages, (close s.kernel v).1 = .ok messages) ↔
      v.handle.state = .closed ∨ (v.handle.releasePlan s.kernel).any isInterrupted = false := by
  obtain ⟨hclosed, cs, hcs, hcalls⟩ := run_releases happroach
  refine ⟨hclosed, ?_, close_completes_iff s.kernel⟩
  rw [hcalls, letGoOnce_append hcs, letGoOnce_carriedOut_iff s.kernel hstarted]

/-- A kernel without errors is let go exactly once. -/
theorem letGoOnce_oneLine :
    (approach ⟨{}, .ignoring⟩ oneLine (begun oneLine { handle := { config := oneLine } })).1 =
      .ok (some [⟨0, "1", false⟩]) ∧
    LetGoOnce (World.callsSince { handle := { config := oneLine } }
      (run ⟨{}, .ignoring⟩ oneLine { handle := { config := oneLine } }).2) := by
  have happroach : (approach ⟨{}, .ignoring⟩ oneLine
      (begun oneLine { handle := { config := oneLine } })).1 = .ok (some [⟨0, "1", false⟩]) := rfl
  exact ⟨happroach, (run_lets_go_once_iff _ happroach rfl).2.1.mpr ⟨by simp, by simp⟩⟩

/-- A kernel without errors, but with a user who interrupts the run while the channels are stopped.
-/
def interruptedStop : Kernel := { stopError := some ⟨.interrupt, "stop"⟩ }

/-- It is reached, and it is left running. -/
theorem not_letGoOnce_interruptedStop :
    (approach ⟨interruptedStop, .ignoring⟩ oneLine
      (begun oneLine { handle := { config := oneLine } })).1 = .ok (some [⟨0, "1", false⟩]) ∧
    ¬ LetGoOnce (World.callsSince { handle := { config := oneLine } }
      (run ⟨interruptedStop, .ignoring⟩ oneLine { handle := { config := oneLine } }).2) := by
  have happroach : (approach ⟨interruptedStop, .ignoring⟩ oneLine
      (begun oneLine { handle := { config := oneLine } })).1 = .ok (some [⟨0, "1", false⟩]) := rfl
  obtain ⟨-, cs, hcs, hcalls⟩ := run_releases happroach
  refine ⟨happroach, ?_⟩
  rw [hcalls, letGoOnce_append hcs, letGoOnce_carriedOut_iff _ rfl]
  exact fun h => Bool.noConfusion (h.1 _ rfl)

end Run

end KernelJob
