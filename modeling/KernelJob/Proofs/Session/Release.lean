import KernelJob.Proofs.Action
import KernelJob.Session.Release

/-! # Releases

A release is a plan: the channels of the client, the kernel, the resources of its manager, as far
as the handle has them. An error of a step is noted and the plan goes on; only an interruption by
the user stops it.

* **`Handle.releasePlan`**, **`ReleaseStep.carriedOut`** — the steps that a handle asks for, and
  the calls that are made for them.
* **`Session.release_ensures`** — a release makes exactly these calls, closes the handle, and
  completes if and only if no step is interrupted.
* **`Session.close_completes_iff`** — when closing a handle completes. -/

namespace KernelJob

namespace Call

/-- Whether a call belongs to a release. -/
def isRelease : Call → Bool
  | .stopChannels | .shutdownKernel | .cleanupResources => true
  | _ => false

/-- A release submits nothing. -/
theorem source?_of_isRelease {c : Call} (h : c.isRelease = true) : c.source? = none := by
  cases c <;> simp_all [isRelease, source?]

/-- A call that submits code releases nothing. -/
theorem isRelease_of_source? {c : Call} (h : c.source?.isSome = true) : c.isRelease = false := by
  cases c <;> first | rfl | cases h

end Call

/-- **A step of a release**: the call that it makes, and the error with which that ends. -/
structure ReleaseStep where
  call : Call
  error : Option KernelError

namespace ReleaseStep

/-- Whether the user interrupts the step. -/
def isInterrupted (s : ReleaseStep) : Bool := s.error.any fun e => !e.isOrdinary

/-- A step is not interrupted if its error, if it has one, is one of the program. -/
theorem isInterrupted_eq_false_iff (s : ReleaseStep) :
    s.isInterrupted = false ↔ ∀ e, s.error = some e → e.isOrdinary = true := by
  unfold isInterrupted
  cases s.error <;> simp

/-- **The calls that are made for a plan**: all up to the first step that is interrupted. -/
def carriedOut : List ReleaseStep → List Call
  | [] => []
  | s :: steps => if s.isInterrupted then [s.call] else s.call :: carriedOut steps

/-- The calls for two plans: those of the second are made if no step of the first is interrupted. -/
theorem carriedOut_append (p q : List ReleaseStep) :
    carriedOut (p ++ q) =
      carriedOut p ++ if p.any isInterrupted then [] else carriedOut q := by
  induction p with
  | nil => simp [carriedOut]
  | cons s p ih =>
    by_cases hs : s.isInterrupted = true
    · simp [carriedOut, hs]
    · simp [carriedOut, hs, ih]

/-- The calls that are made for a plan are calls of its steps, in order. -/
theorem carriedOut_sublist (plan : List ReleaseStep) :
    (carriedOut plan).Sublist (plan.map call) := by
  induction plan with
  | nil => exact List.Sublist.refl _
  | cons s plan ih =>
    rw [carriedOut, List.map_cons]
    split
    · exact (List.nil_sublist _).cons_cons s.call
    · exact ih.cons_cons s.call

/-- Calls that are made for steps of a release belong to the release. -/
theorem isRelease_carriedOut {plan : List ReleaseStep} (h : ∀ s ∈ plan, s.call.isRelease = true) :
    ∀ c ∈ carriedOut plan, c.isRelease = true := by
  intro c hc
  obtain ⟨s, hs, rfl⟩ := List.mem_map.mp ((carriedOut_sublist plan).subset hc)
  exact h s hs

/-- **Every step of a plan of different calls is begun** if and only if no step before the last one
is interrupted. -/
theorem forall_mem_carriedOut_iff {plan : List ReleaseStep} (h : (plan.map call).Nodup) :
    (∀ s ∈ plan, s.call ∈ carriedOut plan) ↔ plan.dropLast.any isInterrupted = false := by
  induction plan with
  | nil => simp
  | cons s plan ih =>
    rw [List.map_cons, List.nodup_cons] at h
    rcases plan with _ | ⟨t, plan⟩
    · simp [carriedOut]
    have hne : ∀ u ∈ t :: plan, u.call ≠ s.call := by
      intro u hu he
      exact h.1 (List.mem_map.mpr ⟨u, hu, he⟩)
    rw [List.dropLast_cons_cons, List.any_cons, carriedOut]
    by_cases hs : s.isInterrupted = true
    · -- the next step is not begun
      rw [if_pos hs, hs, Bool.true_or]
      refine iff_of_false (fun hall => ?_) (by simp)
      have ht := hall t (by simp)
      exact hne t (by simp) (List.mem_singleton.mp ht)
    · rw [if_neg hs, Bool.eq_false_iff.mpr hs, Bool.false_or, ← ih h.2]
      constructor
      · intro hall u hu
        exact (List.mem_cons.mp (hall u (List.mem_cons_of_mem _ hu))).resolve_left (hne u hu)
      · intro hall u hu
        rcases List.mem_cons.mp hu with rfl | hu
        · exact List.mem_cons_self
        · exact List.mem_cons_of_mem _ (hall u hu)

end ReleaseStep

namespace Handle

/-- The step that stops the channels of the client, if there is one. -/
def channelSteps (k : Kernel) (h : Handle) : List ReleaseStep :=
  if h.hasClient then [⟨.stopChannels, k.stopError⟩] else []

/-- The step that shuts the kernel down, if there is one that was started here. -/
def shutdownSteps (k : Kernel) (m : Manager) : List ReleaseStep :=
  if m.hasKernel then [⟨.shutdownKernel, k.shutdownError⟩] else []

/-- The steps that let go of the manager, if there is one. -/
def managerSteps (k : Kernel) : Option Manager → List ReleaseStep
  | none => []
  | some m => shutdownSteps k m ++ [⟨.cleanupResources, k.cleanupError⟩]

/-- **The steps of a release that a handle asks for**, in order. -/
def releasePlan (k : Kernel) (h : Handle) : List ReleaseStep :=
  h.channelSteps k ++ managerSteps k h.manager

/-- The steps of a release make calls that belong to it. -/
theorem isRelease_releasePlan (h : Handle) {k : Kernel} :
    ∀ s ∈ h.releasePlan k, s.call.isRelease = true := by
  rcases h with ⟨config, state, _ | ⟨_ | _⟩, _ | _, artifacts⟩ <;>
    simp [releasePlan, channelSteps, managerSteps, shutdownSteps, Call.isRelease]

/-- **The calls of a release** come in one order. -/
theorem releasePlan_sublist (h : Handle) (k : Kernel) :
    ((h.releasePlan k).map ReleaseStep.call).Sublist
      [.stopChannels, .shutdownKernel, .cleanupResources] := by
  rcases h with ⟨config, state, _ | ⟨_ | _⟩, _ | _, artifacts⟩ <;>
    simp [releasePlan, channelSteps, managerSteps, shutdownSteps]

/-- A release shuts a kernel down if there is one that was started here. -/
theorem shutdownKernel_mem_releasePlan_iff (h : Handle) (k : Kernel) :
    .shutdownKernel ∈ (h.releasePlan k).map ReleaseStep.call ↔
      ∃ m, h.manager = some m ∧ m.hasKernel = true := by
  rcases h with ⟨config, state, _ | ⟨_ | _⟩, _ | _, artifacts⟩ <;>
    simp [releasePlan, channelSteps, managerSteps, shutdownSteps]

/-- Without a manager a release does no more than stop the channels. -/
theorem releasePlan_subset_of_manager_eq_none {h : Handle} (hm : h.manager = none) (k : Kernel) :
    (h.releasePlan k).map ReleaseStep.call ⊆ [.stopChannels] := by
  rcases h with ⟨config, state, m, _ | _, artifacts⟩ <;> obtain rfl : m = none := hm <;>
    simp [releasePlan, channelSteps, managerSteps]

/-- A release begins with the channels, if there is a client. -/
theorem stopChannels_mem_carriedOut {h : Handle} (hc : h.hasClient = true) (k : Kernel) :
    .stopChannels ∈ ReleaseStep.carriedOut (h.releasePlan k) := by
  rw [releasePlan, channelSteps, if_pos hc, List.singleton_append, ReleaseStep.carriedOut]
  split <;> exact List.mem_cons_self

/-- A handle that has nothing asks for nothing. -/
theorem releasePlan_eq_nil_iff (h : Handle) (k : Kernel) :
    h.releasePlan k = [] ↔ h.hasClient = false ∧ h.manager = none := by
  rcases h with ⟨config, state, _ | m, _ | _, artifacts⟩ <;>
    simp [releasePlan, channelSteps, managerSteps]

/-- **A handle that is let go by some calls**: its client by stopping the channels, its kernel by
shutting it down, its manager by freeing what it holds. -/
def LetGoBy (h : Handle) (calls : List Call) : Prop :=
  (h.hasClient = true → .stopChannels ∈ calls) ∧
  (∀ m, h.manager = some m → m.hasKernel = true → .shutdownKernel ∈ calls) ∧
  (h.manager.isSome = true → .cleanupResources ∈ calls)

/-- A handle is let go by the calls of all steps that it asks for. -/
theorem letGoBy_iff (h : Handle) (k : Kernel) (calls : List Call) :
    h.LetGoBy calls ↔ ∀ s ∈ h.releasePlan k, s.call ∈ calls := by
  rcases h with ⟨config, state, _ | ⟨_ | _⟩, _ | _, artifacts⟩ <;>
    simp [LetGoBy, releasePlan, channelSteps, managerSteps, shutdownSteps]

/-- The steps of a release make different calls. -/
theorem nodup_releasePlan (h : Handle) (k : Kernel) :
    ((h.releasePlan k).map ReleaseStep.call).Nodup := by
  rcases h with ⟨config, state, _ | ⟨_ | _⟩, _ | _, artifacts⟩ <;>
    simp [releasePlan, channelSteps, managerSteps, shutdownSteps]

end Handle

namespace Session

open KernelJob.Action ReleaseStep

/-- Carrying out a release submits nothing. -/
theorem source?_carriedOut (h : Handle) (k : Kernel) :
    (carriedOut (h.releasePlan k)).filterMap Call.source? = [] := by
  rw [List.filterMap_eq_nil_iff]
  intro c hc
  exact Call.source?_of_isRelease (isRelease_carriedOut h.isRelease_releasePlan c hc)

/-- **A world in which a handle is being released**: the calls `cs` were made since `w₀`, the handle
is closed, and what the run has gathered and how far it has come are the same. -/
structure Releasing (w₀ : World) (cs : List Call) (w : World) : Prop where
  calls : w.calls = w₀.calls ++ cs
  closed : w.handle.state = .closed
  progress : w.progress = w₀.progress
  state : w.state = w₀.state

variable {w₀ w : World} {cs : List Call} {k : Kernel}

theorem Releasing.record (h : Releasing w₀ cs w) (r : LogRecord) :
    Releasing w₀ cs (w.push (.record r)) :=
  ⟨by simp [h.calls, Event.call?], h.closed, h.progress, h.state⟩

theorem Releasing.call (h : Releasing w₀ cs w) (c : Call) :
    Releasing w₀ (cs ++ [c]) (w.push (.call c)) :=
  ⟨by simp [h.calls, Event.call?], h.closed, h.progress, h.state⟩

/-- What carrying out some steps ensures: the calls for them are made, and they complete if and only
if none is interrupted. -/
def CarriesOut {α : Type} (x : Action α) (plan : List ReleaseStep) : Prop :=
  ∀ ⦃w₀ w : World⦄ ⦃cs : List Call⦄, Releasing w₀ cs w →
    x.Ensures w
      (fun _ w' => Releasing w₀ (cs ++ carriedOut plan) w' ∧ plan.any isInterrupted = false)
      (fun _ w' => Releasing w₀ (cs ++ carriedOut plan) w' ∧ plan.any isInterrupted = true)

/-- Nothing to do is done. -/
theorem carriesOut_nil {α : Type} (a : α) : CarriesOut (pure a) [] := by
  intro w₀ w cs h
  exact ⟨by simpa [carriedOut] using h, rfl⟩

/-- Two plans are carried out one after the other. -/
theorem CarriesOut.bind {α β : Type} {x : Action α} {f : α → Action β} {p q : List ReleaseStep}
    (hx : CarriesOut x p) (hf : ∀ a, CarriesOut (f a) q) : CarriesOut (x >>= f) (p ++ q) := by
  intro w₀ w cs h
  rw [ensures_bind]
  -- an interruption of the first plan leaves out the second
  refine (hx h).mono (fun a w' ha => ?_) (fun e w' he => ?_)
  · obtain ⟨hw, hp⟩ := ha
    refine (hf a hw).mono (fun b w'' hb => ?_) (fun e w'' he => ?_)
    · obtain ⟨hw', hq⟩ := hb
      refine ⟨?_, by simp [hp, hq]⟩
      simpa [carriedOut_append, hp] using hw'
    · obtain ⟨hw', hq⟩ := he
      refine ⟨?_, by simp [hp, hq]⟩
      simpa [carriedOut_append, hp] using hw'
  · obtain ⟨hw, hp⟩ := he
    refine ⟨?_, by simp [hp]⟩
    simpa [carriedOut_append, hp] using hw

/-- A step that is left out where it is not asked for. -/
theorem CarriesOut.orSkip {β : Type} {x : Action (List Text)} {f : List Text → Action β}
    {s : ReleaseStep} {q : List ReleaseStep} (hx : CarriesOut x [s])
    (hf : ∀ a, CarriesOut (f a) q) (asked : Bool) :
    CarriesOut (if asked then x >>= f else pure [] >>= f) ((if asked then [s] else []) ++ q) := by
  cases asked
  · exact (carriesOut_nil _).bind hf
  · exact hx.bind hf

/-- A step whose error is noted, unless the user interrupts it. -/
theorem releaseStep_carriesOut {step : Action Unit} {s : ReleaseStep}
    {done failed diagnostic : Text}
    (hstep : ∀ ⦃w₀ w : World⦄ ⦃cs : List Call⦄, Releasing w₀ cs w →
      step.Ensures w (fun _ w' => Releasing w₀ (cs ++ [s.call]) w' ∧ s.error = none)
        (fun e w' => Releasing w₀ (cs ++ [s.call]) w' ∧
          ∃ error, s.error = some error ∧ e = Failure.kernel error)) :
    CarriesOut (releaseStep step done failed diagnostic) [s] := by
  intro w₀ w cs h
  have hs : carriedOut [s] = [s.call] := by simp [carriedOut]
  rw [hs]
  unfold releaseStep
  rw [ensures_bind, ensures_attempt]
  refine (hstep h).mono ?_ ?_
  · rintro _ w' ⟨hw, hnone⟩
    exact ⟨hw.record _, by simp [isInterrupted, hnone]⟩
  · rintro e w' ⟨hw, error, hsome, rfl⟩
    dsimp only
    split
    · rename_i ho
      have ho : error.isOrdinary = true := ho
      exact ⟨hw.record _, by simp [isInterrupted, hsome, ho]⟩
    · rename_i ho
      have ho : ¬ error.isOrdinary = true := ho
      exact ⟨hw, by simp [isInterrupted, hsome, ho]⟩

/-- Making a call that ends with an error or without one. -/
theorem call_raiseKernel_ensures (c : Call) (error : Option KernelError)
    (h : Releasing w₀ cs w) :
    (do call c; raiseKernel error).Ensures w
      (fun _ w' => Releasing w₀ (cs ++ [c]) w' ∧ error = none)
      (fun e w' => Releasing w₀ (cs ++ [c]) w' ∧
        ∃ er, error = some er ∧ e = Failure.kernel er) := by
  rw [ensures_bind, ensures_call, ensures_raiseKernel]
  rcases error with _ | er
  · exact ⟨h.call c, rfl⟩
  · exact ⟨h.call c, er, rfl, rfl⟩

/-- Shutting a kernel down leaves its manager without one. -/
theorem shutdownKernel_ensures (h : Releasing w₀ cs w) :
    (shutdownKernel k).Ensures w
      (fun _ w' => Releasing w₀ (cs ++ [.shutdownKernel]) w' ∧ k.shutdownError = none)
      (fun e w' => Releasing w₀ (cs ++ [.shutdownKernel]) w' ∧
        ∃ er, k.shutdownError = some er ∧ e = .kernel er) := by
  unfold shutdownKernel
  have hc := h.call .shutdownKernel
  rw [ensures_bind, ensures_call, ensures_bind, ensures_raiseKernel]
  rcases hk : k.shutdownError with _ | er
  · exact ⟨⟨hc.calls, hc.closed, hc.progress, hc.state⟩, rfl⟩
  · exact ⟨hc, er, rfl, rfl⟩

/-- Letting go of a manager carries out its steps. -/
theorem releaseManager_carriesOut (k : Kernel) (kernel : Text) (m : Option Manager) :
    CarriesOut (releaseManager k kernel m) (Handle.managerSteps k m) := by
  rcases m with _ | m
  · exact carriesOut_nil _
  refine (releaseStep_carriesOut (s := ⟨.shutdownKernel, k.shutdownError⟩)
    fun _ _ _ h => shutdownKernel_ensures h).orSkip (fun down => ?_) m.hasKernel
  exact (releaseStep_carriesOut (s := ⟨.cleanupResources, k.cleanupError⟩)
    fun _ _ _ h => call_raiseKernel_ensures _ _ h).bind fun _ => carriesOut_nil _

/-- **A release carries out the plan of its handle**: it makes the calls for it, closes the handle,
and completes if and only if no step is interrupted. -/
theorem release_ensures (k : Kernel) (w : World) :
    (release k).Ensures w
      (fun _ w' => Releasing w (carriedOut (w.handle.releasePlan k)) w' ∧
        (w.handle.releasePlan k).any isInterrupted = false)
      (fun _ w' => Releasing w (carriedOut (w.handle.releasePlan k)) w' ∧
        (w.handle.releasePlan k).any isInterrupted = true) := by
  have hstart : Releasing w [] { w with handle := { w.handle with state := .closed } } :=
    ⟨(World.calls_congr rfl).trans (List.append_nil _).symm, rfl, rfl, rfl⟩
  unfold release
  -- the handle is closed before anything is released
  rw [ensures_bind, ensures_changeHandle, ensures_bind, ensures_world]
  refine (releaseStep_carriesOut (s := ⟨.stopChannels, k.stopError⟩)
    fun _ _ _ h => call_raiseKernel_ensures _ _ h).orSkip (fun stopped => ?_) _ hstart
  simpa using (releaseManager_carriesOut k w.handle.config.kernel w.handle.manager).bind
    fun managed => carriesOut_nil (stopped ++ managed)

/-- Closing a handle that is open is a release, closing one that is closed does nothing. -/
theorem close_apply (k : Kernel) (w : World) :
    close k w = if w.handle.state = .closed then (.ok [], w) else release k w := by
  unfold close
  rw [bind_apply, world_apply]
  dsimp only
  split <;> rfl

/-- **Closing a handle completes** if and only if it is closed already or no step of its release is
interrupted by the user. -/
theorem close_completes_iff (k : Kernel) (w : World) :
    (∃ messages, (close k w).1 = .ok messages) ↔
      w.handle.state = .closed ∨ (w.handle.releasePlan k).any isInterrupted = false := by
  rw [close_apply]
  by_cases hc : w.handle.state = .closed
  · simp [hc]
  have h := release_ensures k w
  unfold Ensures at h
  rw [if_neg hc]
  rcases hr : release k w with ⟨e | messages, w'⟩ <;> rw [hr] at h
  · simp [hc, h.2]
  · simp [h.2]

end Session

end KernelJob
