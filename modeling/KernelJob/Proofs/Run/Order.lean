import KernelJob.Proofs.Run.Cancel
import KernelJob.Proofs.Session.Started

/-! # The order of kernel calls

A run calls its kernel in phases: it connects, submits code, may interrupt the kernel, and releases
it. A phase may be cut short or left out, and the release undoes no more than what was done.

* **`Run.Phases`**, **`Run.run_phased`** — the calls of a run, phase by phase.
* **`Run.PollsFirst`**, **`Run.run_pollsFirst`** — once the release has begun no message is asked
  for.
* **`Run.InOrder`**, **`Run.run_inOrder`** — the order of the calls of a run, whatever errors the
  kernel makes and whatever the receiver of the lines does. -/

namespace KernelJob

/-- Whether a call is one to the manager of a kernel. -/
def Call.isManaged : Call → Bool
  | .newManager _ | .startKernel _ | .managerClient | .interruptKernel | .shutdownKernel
  | .cleanupResources => true
  | _ => false

namespace Run

open KernelJob.Action KernelJob.Session ReleaseStep

variable {s : Setting} {k : Kernel} {config : RunConfig} {v w : World}
  {front work tail release : List Call}

/-! ## Parts of lists -/

/-- What follows a part of a list in which an element does not occur. -/
theorem eq_append_of_not_mem {α : Type} {a : α} {as bs before after : List α}
    (h : as ++ bs = before ++ a :: after) (ha : a ∉ as) :
    ∃ mid, before = as ++ mid ∧ bs = mid ++ a :: after := by
  rcases List.append_eq_append_iff.mp h with ⟨mid, hbefore, hbs⟩ | ⟨mid, has, hafter⟩
  · exact ⟨mid, hbefore, hbs⟩
  · rcases mid with _ | ⟨b, mid⟩
    · exact ⟨[], by simpa using has.symm, hafter.symm⟩
    · -- the element would be in the first part
      obtain ⟨rfl, -⟩ := List.cons.inj hafter
      exact absurd (by rw [has]; simp) ha

/-- What comes before a part of a list in which an element does not occur. -/
theorem eq_append_cons_of_not_mem {α : Type} {a : α} {as bs before after : List α}
    (h : as ++ bs = before ++ a :: after) (ha : a ∉ bs) :
    ∃ mid, as = before ++ a :: mid ∧ after = mid ++ bs := by
  rcases List.append_eq_append_iff.mp h with ⟨mid, hbefore, hbs⟩ | ⟨mid, has, hafter⟩
  · exact absurd (by rw [hbs]; simp) ha
  · rcases mid with _ | ⟨b, mid⟩
    · exact absurd (by rw [← List.nil_append bs, ← hafter]; simp) ha
    · obtain ⟨rfl, hrest⟩ := List.cons.inj hafter
      exact ⟨mid, has, hrest⟩

/-! ## Phases -/

/-- **The calls of a run before its release**, in phases: it connects, submits code, and interrupts
the kernel. -/
structure BeforeRelease (config : RunConfig) (front work tail : List Call) : Prop where
  /-- Connecting comes first, all of it or a first part. -/
  connects : ∃ directory, front <+: connectCalls config directory
  /-- The work is to submit code. -/
  submits : ∀ c ∈ work, c.source?.isSome = true
  /-- The kernel is interrupted at most once, and only if it was started here. -/
  interrupts : tail = [] ∨ tail = [.interruptKernel] ∧ config.connectionFile = none

/-- Before the release nothing is released. -/
theorem BeforeRelease.isRelease (h : BeforeRelease config front work tail) :
    ∀ c ∈ front ++ work ++ tail, c.isRelease = false := by
  obtain ⟨directory, hfront⟩ := h.connects
  rw [List.forall_mem_append, List.forall_mem_append]
  refine ⟨⟨fun c hc => isRelease_connectCalls c (hfront.subset hc),
    fun c hc => Call.isRelease_of_source? (h.submits c hc)⟩, ?_⟩
  rcases h.interrupts with rfl | ⟨rfl, -⟩
  · exact List.forall_mem_nil _
  · simp [Call.isRelease]

/-- **The calls of a run, in phases.** -/
structure Phases (k : Kernel) (config : RunConfig) (front work tail release : List Call) : Prop
    extends BeforeRelease config front work tail where
  /-- Code is submitted to a kernel that was waited for and is ready, and whose channels are stopped
  at the end. -/
  ready : work ≠ [] → .waitForReady config.launchTimeout ∈ front ∧ k.readyError = none ∧
    .stopChannels ∈ release
  /-- The release undoes no more than what was done before it. -/
  undoes : Undoes k config (front ++ work ++ tail) release

/-- A run that fails to connect has only begun to, and released what it had begun. -/
theorem Phases.of_undoes {directory : Option Text}
    (hfront : front <+: connectCalls config directory) (h : Undoes k config front release) :
    Phases k config front [] [] release where
  connects := ⟨directory, hfront⟩
  submits := List.forall_mem_nil _
  interrupts := .inl rfl
  ready hne := absurd rfl hne
  undoes := by
    rw [List.append_nil, List.append_nil]
    exact h

/-- **A world that a run has come to in phases** since `w₀`: there are no calls if it has no
source. -/
def Phased (k : Kernel) (config : RunConfig) (w₀ w : World) : Prop :=
  ∃ front work tail release, w.calls = w₀.calls ++ (front ++ work ++ tail ++ release) ∧
    Phases k config front work tail release ∧
    (front ++ work ++ tail ++ release ≠ [] → HasSource w₀.files config)

/-- A run that makes no call. -/
theorem Phased.of_quiet (k : Kernel) (config : RunConfig) (hw : v.calls = w.calls) :
    Phased k config w v := by
  have hfront : [] <+: connectCalls config none := List.nil_prefix
  exact ⟨[], [], [], [], hw.trans (List.append_nil _).symm, .of_undoes hfront (.nil k config []),
    fun hne => absurd rfl hne⟩

/-- Only the calls matter, and the files at the beginning. -/
theorem Phased.congr {v' w' : World} (h : Phased k config w v) (hfiles : w.files = w'.files)
    (hcalls : w.calls = w'.calls) (hv : v'.calls = v.calls) : Phased k config w' v' := by
  obtain ⟨front, work, tail, release, hphased, hphases, hsource⟩ := h
  rw [hcalls, ← hv] at hphased
  rw [hfiles] at hsource
  exact ⟨front, work, tail, release, hphased, hphases, hsource⟩

/-! ## Before the first unit -/

/-- **How a run has come to its first unit**, as far as its calls are concerned: it has made none if
it names no source; or it has a source, a handle that owns what it has, and a kernel that is
ready. -/
def CameTo (k : Kernel) (config : RunConfig) (w₀ : World) : Option (List CodeUnit) → World → Prop
  | none, w => w.calls = w₀.calls
  | some _, w => HasSource w₀.files config ∧ Owned k config w₀ w ∧ k.readyError = none

/-- **The calls on the way to the kernel**: none unless the run has a source. -/
theorem approach_phases (s : Setting) (config : RunConfig) (w : World) :
    (approach s config).Ensures w (CameTo s.kernel config w)
      (fun _ => Phased s.kernel config w) := by
  unfold approach
  split
  · exact .of_quiet s.kernel config rfl
  rename_i hcheck
  split
  · -- the run names no source
    exact ((diagnose_ensures s emptyPathMessage w).mono (fun _ _ h => h.1.calls)
      fun _ _ h => .of_quiet s.kernel config h.1.1.calls).bind fun _ _ h => h
  rename_i hsource
  refine ((emitHeader_quiet s config (Quiet.refl w)).mono (fun _ _ h => h)
    fun _ _ h => .of_quiet s.kernel config h.calls).bind fun _ w₁ h₁ => ?_
  refine ((loadUnits_loads s config h₁).mono (fun _ _ h => h)
    fun _ _ h => .of_quiet s.kernel config h.calls).bind fun units w₂ h₂ => ?_
  obtain ⟨document, hloads, -, h₂⟩ := h₂
  have hhas : HasSource w.files config := ⟨hcheck, hsource, document, hloads⟩
  rw [ensures_bind]
  refine checkCancelled_ensures _ ?_ fun _ => .of_quiet s.kernel config h₂.calls
  rw [ensures_bind, enter, ensures_change]
  have hcalls : ({ w₂ with state := .connecting } : World).calls = w.calls := h₂.calls
  refine ((connect_owns s.kernel config { w₂ with state := .connecting }).mono
    (fun _ _ h => h) ?_).bind fun _ w' h => ?_
  · rintro e w' ⟨directory, front, release, hfront, hundoes, hw'⟩
    rw [hcalls] at hw'
    exact ⟨front, [], [], release, by simpa using hw', .of_undoes hfront hundoes, fun _ => hhas⟩
  · exact ⟨hhas, h.1.congr hcalls, h.2⟩

/-! ## The whole run -/

/-- Connecting waits for the kernel to be ready. -/
theorem waitForReady_mem_connectCalls (config : RunConfig) (directory : Option Text) :
    .waitForReady config.launchTimeout ∈ connectCalls config directory :=
  List.mem_append_right _ (List.mem_cons_of_mem _ List.mem_cons_self)

/-- An open handle interrupts its kernel by one call, if that was started here. -/
theorem interruptCalls_openHandle_or (config : RunConfig) :
    (openHandle config).interruptCalls = [] ∨
      (openHandle config).interruptCalls = [.interruptKernel] ∧ config.connectionFile = none := by
  rcases hf : config.connectionFile with _ | file
  · exact .inr ⟨interruptCalls_openHandle hf, rfl⟩
  · refine .inl ?_
    rw [Handle.interruptCalls, Handle.ownsKernel, openHandle, joinedHandle, if_neg (by simp [hf])]

/-- **A world in which the units of a run have been dealt with**: the kernel was waited for, code
was submitted, and the kernel may have been interrupted. The handle is open, and owns what it has.
-/
structure Handled (k : Kernel) (config : RunConfig) (w₀ : World) (front work tail : List Call)
    (w : World) : Prop extends BeforeRelease config front work tail where
  calls : w.calls = w₀.calls ++ (front ++ work ++ tail)
  waits : .waitForReady config.launchTimeout ∈ front
  connection : w.handle.connection = (openHandle config).connection
  owned : Owned k config w₀ w

/-- A run that has reached its kernel deals with its units. -/
theorem dealtWith_handled {units : List CodeUnit}
    (h : (approach s config (begun config w)).1 = .ok (some units)) :
    ∃ front work tail, Handled s.kernel config w front work tail (dealtWith s config units w) := by
  have hbegun : (begun config w).calls = w.calls := World.calls_congr rfl
  obtain ⟨-, hhandle, -, directory, hconnect⟩ :=
    (ensures_iff.mp (approach_ensures s config (begun config w))).1 _ h
  obtain ⟨-, howned, -⟩ := (ensures_iff.mp (approach_phases s config (begun config w))).1 _ h
  unfold dealtWith
  generalize (approach s config (begun config w)).2 = v at *
  have hopen : v.handle.state = .connected := by rw [hhandle]; rfl
  obtain ⟨tail, htail, hworked⟩ := runConnected_works s config units hopen
  obtain ⟨work, hwork, hsubmits⟩ := hworked.calls
  refine ⟨connectCalls config directory, work, tail,
    ⟨⟨directory, List.prefix_refl _⟩, hsubmits, ?_⟩, ?_,
    waitForReady_mem_connectCalls config directory, ?_, ?_⟩
  · rcases htail with rfl | rfl
    · exact .inl rfl
    · rw [hhandle]
      exact interruptCalls_openHandle_or config
  · rw [hwork, hconnect, hbegun]
    simp only [List.append_assoc]
  · rw [hworked.connection, hhandle]
  · exact (howned.mono hworked.manager hwork).congr hbegun

/-- **The calls of a run that has reached its kernel.** -/
theorem phased_of_approach {units : List CodeUnit}
    (h : (approach s config (begun config w)).1 = .ok (some units)) :
    Phased s.kernel config w (run s config w).2 := by
  obtain ⟨hsource, -, hready⟩ :=
    (ensures_iff.mp (approach_phases s config (begun config w))).1 _ h
  obtain ⟨front, work, tail, hhandled⟩ := dealtWith_handled h
  have hend : Diagnosed (finalize s (dealtWith s config units w)).2 (run s config w).2 := by
    have hdiagnosed := run_diagnosed s config w
    rw [steps_of_approach h, closing_world] at hdiagnosed
    exact hdiagnosed
  generalize dealtWith s config units w = v at *
  have hstate : v.handle.state = .connected := (congrArg Handle.state hhandled.connection :)
  have hclient : v.handle.hasClient = true := (congrArg Handle.hasClient hhandled.connection :)
  have hfinal : Finalized s.kernel v (finalize s v).2 :=
    (finalize_ensures s (by rw [hstate]; decide)).after
  -- the handle still owns what it has, so that the release undoes no more than that
  have hundoes := hhandled.owned.undoes
  rw [World.callsSince_eq hhandled.calls] at hundoes
  refine ⟨front, work, tail, _, ?_, ⟨hhandled.toBeforeRelease, fun _ => ?_, hundoes⟩,
    fun _ => hsource⟩
  · rw [hend.calls, hfinal.calls, hhandled.calls, List.append_assoc w.calls]
  · exact ⟨hhandled.waits, hready, Handle.stopChannels_mem_carriedOut hclient s.kernel⟩

/-- **Every run calls its kernel in phases.** -/
theorem run_phased (s : Setting) (config : RunConfig) (w : World) :
    Phased s.kernel config w (run s config w).2 := by
  have hbegun : (begun config w).calls = w.calls := World.calls_congr rfl
  have happroach := approach_phases s config (begun config w)
  have hend := (run_diagnosed s config w).calls
  unfold Ensures at happroach
  rw [steps_apply] at hend
  rcases ha : approach s config (begun config w) with ⟨e | _ | units, v⟩ <;>
    rw [ha] at happroach hend
  · -- a run that does not reach its kernel makes no calls after the way there
    exact happroach.congr rfl hbegun hend
  · have hquiet : v.calls = w.calls := happroach.trans hbegun
    exact .of_quiet s.kernel config (hend.trans hquiet)
  · exact phased_of_approach (by rw [ha])

/-! ## After the release has begun -/

/-- **A world in which no message was asked for** since `w₀`. -/
def Unpolled (w₀ w : World) : Prop :=
  ∃ es, w.trace = w₀.trace ++ es ∧ ∀ p, .poll p ∉ es

/-- Nothing has happened yet. -/
theorem Unpolled.refl (w : World) : Unpolled w w :=
  ⟨[], (List.append_nil _).symm, fun _ => List.not_mem_nil⟩

/-- More events, none of which is a poll. -/
theorem Unpolled.append {v' : World} {es : List Event} (h : Unpolled w v)
    (htrace : v'.trace = v.trace ++ es) (hes : ∀ p, .poll p ∉ es) : Unpolled w v' := by
  obtain ⟨fs, hfs, hnone⟩ := h
  refine ⟨fs ++ es, ?_, fun p hp => ?_⟩
  · rw [htrace, hfs, List.append_assoc]
  · exact (List.mem_append.mp hp).elim (hnone p) (hes p)

/-- Whoever cannot wait for messages asks for none. -/
theorem keptBy_unpolled (sink : Sink) (w : World) :
    KeptBy sink { speak := true, call := true, cancel := true } (Unpolled w) where
  congr v v' hv htrace _ _ := by
    obtain ⟨es, hes⟩ := hv
    exact ⟨es, htrace.trans hes.1, hes.2⟩
  step e he v hv := by
    cases e with
    | record r => exact hv.append rfl (by simp)
    | call c => exact hv.append rfl (by simp)
    | cancel => exact hv.append rfl (by simp)
    | line t =>
      rw [Elementary.perform, emit_apply]
      refine hv.append (World.trace_emitted v sink t) ?_
      split <;> simp
    | poll p => cases he
    | die said => cases he

/-- The trace of a world only grows. -/
theorem keptBy_trace (sink : Sink) (w : World) :
    KeptBy sink everything fun v => w.trace <+: v.trace where
  congr v v' hv htrace _ _ := by rw [htrace]; exact hv
  step e _ v hv := by
    cases e with
    | die said => exact hv
    | line t =>
      rw [Elementary.perform, emit_apply, World.trace_emitted]
      exact hv.trans (List.prefix_append _ _)
    | _ => exact hv.trans (List.prefix_append _ _)

/-- **Messages are asked for first**: the events since `w₀` come in two parts; in the first nothing
is released, and in the second no message is asked for. -/
def PollsFirst (w₀ w : World) : Prop :=
  ∃ es fs, w.trace = w₀.trace ++ (es ++ fs) ∧ (∀ c, .call c ∈ es → c.isRelease = false) ∧
    ∀ p, .poll p ∉ fs

/-- Where no message is asked for there is no first part. -/
theorem Unpolled.pollsFirst (h : Unpolled w v) : PollsFirst w v := by
  obtain ⟨fs, htrace, hfs⟩ := h
  exact ⟨[], fs, htrace, fun _ hc => absurd hc List.not_mem_nil, hfs⟩

/-- Once something was released no message is asked for. -/
theorem PollsFirst.poll_not_mem (h : PollsFirst w v) {before after : List Event} {c : Call}
    (hsplit : World.eventsSince w v = before ++ .call c :: after) (hc : c.isRelease = true)
    (p : Poll) : .poll p ∉ after := by
  obtain ⟨es, fs, htrace, hes, hfs⟩ := h
  -- the call belongs to the second part of the events
  have hnot : .call c ∉ es := by
    intro hmem
    rw [hes c hmem] at hc
    cases hc
  rw [World.eventsSince_eq htrace] at hsplit
  obtain ⟨mid, -, hrest⟩ := eq_append_of_not_mem hsplit hnot
  intro hp
  refine hfs p ?_
  rw [hrest]
  exact List.mem_append_right _ (List.mem_cons_of_mem _ hp)

/-- **Every run asks for messages before it releases anything.** -/
theorem run_pollsFirst (s : Setting) (config : RunConfig) (w : World) :
    PollsFirst w (run s config w).2 := by
  have hkept := keptBy_unpolled s.sink
  have happroach := approach_keeps (hkept w) config (begun config w) (Unpolled.refl w)
  have after {v} (h : Unpolled v (steps s config (begun config w)).2) :
      Unpolled v (run s config w).2 := run_after_steps ((hkept v).mono (by decide)) config h
  have hsteps := steps_apply s config (begun config w)
  rcases ha : approach s config (begun config w) with ⟨e | _ | units, v⟩ <;>
    rw [ha] at happroach hsteps
  · -- a run that does not reach its kernel asks for no message at all
    exact (after (by rw [hsteps]; exact happroach)).pollsFirst
  · exact (after (by rw [hsteps]; exact happroach)).pollsFirst
  · have hreached : (approach s config (begun config w)).1 = .ok (some units) := by rw [ha]
    obtain ⟨front, work, tail, hhandled⟩ := dealtWith_handled hreached
    have hgrows : w.trace <+: (dealtWith s config units w).trace := by
      obtain ⟨es, htrace, -⟩ := happroach
      have hv : w.trace <+: v.trace := ⟨es, htrace.symm⟩
      rw [dealtWith, ha]
      exact runConnected_keepsRunning (keptBy_trace s.sink w).running config units v hv
    have hfinal : Unpolled (dealtWith s config units w) (steps s config (begun config w)).2 := by
      rw [steps_of_approach hreached, closing_world]
      exact (finalize_built s).keeps ((hkept _).mono (by decide)) _ (Unpolled.refl _)
    obtain ⟨es, hes⟩ := hgrows
    obtain ⟨fs, htrace, hfs⟩ := after hfinal
    refine ⟨es, fs, ?_, fun c hc => hhandled.isRelease c ?_, hfs⟩
    · rw [htrace, ← hes, List.append_assoc]
    · -- the calls among these events are those before the release
      have hsplit : w.calls ++ es.filterMap Event.call? =
          w.calls ++ (front ++ work ++ tail) := by
        rw [← hhandled.calls, World.calls, World.calls, ← hes, List.filterMap_append]
      rw [← List.append_cancel_left hsplit]
      exact List.mem_filterMap.mpr ⟨_, hc, rfl⟩

/-! ## Order -/

namespace Phases

/-- Before code is submitted a run has connected, and submitted other code at most; its release is
still to come. -/
theorem before_execute (h : Phases k config front work tail release) {before after : List Call}
    {source : Text}
    (hsplit : front ++ work ++ tail ++ release = before ++ .execute source :: after) :
    work ≠ [] ∧ (∃ mid, before = front ++ mid ∧ ∀ c ∈ mid, c.source?.isSome = true) ∧
      release ⊆ after := by
  obtain ⟨directory, hfront⟩ := h.connects
  -- code is submitted neither in connecting nor after the work
  have hnotfront : .execute source ∉ front := fun hc =>
    nomatch source?_connectCalls _ (hfront.subset hc)
  have hnottail : .execute source ∉ tail := by
    rcases h.interrupts with rfl | ⟨rfl, -⟩ <;> simp
  have hnotrelease : .execute source ∉ release := fun hc => nomatch h.undoes.isRelease _ hc
  obtain ⟨rest, hrest, hafter⟩ := eq_append_cons_of_not_mem hsplit hnotrelease
  obtain ⟨rest', hrest', -⟩ := eq_append_cons_of_not_mem hrest hnottail
  obtain ⟨mid, hbefore, hwork⟩ := eq_append_of_not_mem hrest' hnotfront
  refine ⟨by rw [hwork]; simp, ⟨mid, hbefore, fun c hc => h.submits c ?_⟩, ?_⟩
  · rw [hwork]
    exact List.mem_append_left _ hc
  · rw [hafter]
    exact List.subset_append_right _ _

/-- Code is submitted when the kernel is ready, and before its channels are stopped. -/
theorem executes (h : Phases k config front work tail release) {before after : List Call}
    {source : Text}
    (hsplit : front ++ work ++ tail ++ release = before ++ .execute source :: after) :
    .waitForReady config.launchTimeout ∈ before ∧ k.readyError = none ∧
      .stopChannels ∉ before ∧ .stopChannels ∈ after := by
  obtain ⟨directory, hfront⟩ := h.connects
  obtain ⟨hwork, ⟨mid, rfl, hmid⟩, hafter⟩ := h.before_execute hsplit
  obtain ⟨hwaits, hready, hstops⟩ := h.ready hwork
  refine ⟨List.mem_append_left _ hwaits, hready, fun hc => ?_, hafter hstops⟩
  rcases List.mem_append.mp hc with hc | hc
  · cases isRelease_connectCalls _ (hfront.subset hc)
  · cases hmid _ hc

/-- No code is submitted after the kernel was interrupted. -/
theorem execute_not_mem (h : Phases k config front work tail release) {before after : List Call}
    (hsplit : front ++ work ++ tail ++ release = before ++ .interruptKernel :: after)
    (source : Text) : .execute source ∉ after := by
  intro hc
  obtain ⟨directory, hfront⟩ := h.connects
  obtain ⟨between, rest, rfl⟩ := List.append_of_mem hc
  -- otherwise the interruption would come before the submission of code
  have hsplit' : front ++ work ++ tail ++ release =
      (before ++ .interruptKernel :: between) ++ .execute source :: rest := by
    rw [hsplit, List.append_assoc, List.cons_append]
  obtain ⟨-, ⟨mid, hbefore, hmid⟩, -⟩ := h.before_execute hsplit'
  have hmem : .interruptKernel ∈ front ++ mid := by
    rw [← hbefore]
    simp
  rcases List.mem_append.mp hmem with hmem | hmem
  · cases isInterrupt_connectCalls _ (hfront.subset hmem)
  · cases hmid _ hmem

/-- The kernel is interrupted at most once. -/
theorem interrupts_once (h : Phases k config front work tail release) :
    (front ++ work ++ tail ++ release).countP Call.isInterrupt ≤ 1 := by
  obtain ⟨directory, hfront⟩ := h.connects
  have none_of : ∀ {cs : List Call}, (∀ c ∈ cs, c.isInterrupt = false) →
      cs.countP Call.isInterrupt = 0 := by
    intro cs hcs
    rw [List.countP_eq_zero]
    intro c hc
    rw [hcs c hc]
    decide
  have hfrontcount := none_of fun c hc => isInterrupt_connectCalls c (hfront.subset hc)
  have hworkcount := none_of fun c hc => isInterrupt_of_source? (h.submits c hc)
  have hreleasecount := none_of fun c hc => isInterrupt_of_isRelease (h.undoes.isRelease c hc)
  rw [List.countP_append, List.countP_append, List.countP_append, hfrontcount, hworkcount,
    hreleasecount]
  rcases h.interrupts with rfl | ⟨rfl, -⟩ <;> decide

/-- A kernel is shut down only after it was started. -/
theorem shutdown (h : Phases k config front work tail release) {before after : List Call}
    (hsplit : front ++ work ++ tail ++ release = before ++ .shutdownKernel :: after) :
    k.Starts config ∧ ∃ directory, .startKernel directory ∈ before := by
  have hnot : .shutdownKernel ∉ front ++ work ++ tail := fun hc => nomatch h.isRelease _ hc
  obtain ⟨mid, rfl, hrelease⟩ := eq_append_of_not_mem hsplit hnot
  obtain ⟨hstarts, directory, hcall⟩ := h.undoes.started (by rw [hrelease]; simp)
  exact ⟨hstarts, directory, List.mem_append_left _ hcall⟩

/-- With a connection file the manager of a kernel is never called. -/
theorem isManaged (h : Phases k config front work tail release)
    (hfile : config.connectionFile.isSome = true) :
    ∀ c ∈ front ++ work ++ tail ++ release, c.isManaged = false := by
  obtain ⟨directory, hfront⟩ := h.connects
  obtain ⟨file, hf⟩ := Option.isSome_iff_exists.mp hfile
  have hconnect : ∀ c ∈ connectCalls config directory, c.isManaged = false := by
    simp [connectCalls, hf, Call.isManaged]
  rw [List.forall_mem_append, List.forall_mem_append, List.forall_mem_append]
  refine ⟨⟨⟨fun c hc => hconnect c (hfront.subset hc), fun c hc => ?_⟩, ?_⟩, fun c hc => ?_⟩
  · have hsource := h.submits c hc
    cases c <;> first | rfl | cases hsource
  · -- the kernel is not interrupted, for it was not started here
    rcases h.interrupts with rfl | ⟨-, hnone⟩
    · exact List.forall_mem_nil _
    · rw [hnone] at hf
      cases hf
  · rw [List.mem_singleton.mp (h.undoes.attached hfile hc)]
    rfl

end Phases

/-- **Kernel calls in order.** `w` is the world before a run, `w'` that after it. -/
structure InOrder (k : Kernel) (config : RunConfig) (w w' : World) : Prop where
  /-- Nothing is called unless the configuration is valid, and the source can be read and parsed. -/
  sourced : World.callsSince w w' ≠ [] → HasSource w.files config
  /-- Code is submitted after the kernel was waited for and became ready, and before its channels
  are stopped. -/
  executes : ∀ before source after, World.callsSince w w' = before ++ .execute source :: after →
    .waitForReady config.launchTimeout ∈ before ∧ k.readyError = none ∧
      .stopChannels ∉ before ∧ .stopChannels ∈ after
  /-- The kernel is interrupted at most once, and no code is submitted after that. -/
  interrupts : (World.callsSince w w').countP Call.isInterrupt ≤ 1 ∧
    ∀ before after, World.callsSince w w' = before ++ .interruptKernel :: after →
      ∀ source, .execute source ∉ after
  /-- Each step of the release is made at most once, in this order, and from the first of them on
  there are no other calls. -/
  releases : ∃ before release, World.callsSince w w' = before ++ release ∧
    (∀ c ∈ before, c.isRelease = false) ∧
      release.Sublist [.stopChannels, .shutdownKernel, .cleanupResources]
  /-- From then on no message is asked for either. -/
  silent : ∀ before c after, World.eventsSince w w' = before ++ .call c :: after →
    c.isRelease = true → ∀ p, .poll p ∉ after
  /-- A kernel is shut down only after it was started without an error. -/
  shutdown : ∀ before after, World.callsSince w w' = before ++ .shutdownKernel :: after →
    k.Starts config ∧ ∃ directory, .startKernel directory ∈ before
  /-- With a connection file the manager of a kernel is never called. -/
  attached : config.connectionFile.isSome = true →
    ∀ c ∈ World.callsSince w w', c.isManaged = false

/-- **The calls of every run are in order**, whatever errors the kernel makes, and whether or not
the receiver of its lines fails. -/
theorem run_inOrder (s : Setting) (config : RunConfig) (w : World) :
    InOrder s.kernel config w (run s config w).2 := by
  obtain ⟨front, work, tail, release, hcalls, hphases, hsource⟩ := run_phased s config w
  have hsince := World.callsSince_eq hcalls
  constructor
  · rw [hsince]
    exact hsource
  · intro before source after hsplit
    exact hphases.executes (hsince.symm.trans hsplit)
  · rw [hsince]
    exact ⟨hphases.interrupts_once, fun before after => hphases.execute_not_mem⟩
  · exact ⟨_, release, hsince, hphases.isRelease, hphases.undoes.order⟩
  · intro before c after hsplit hc
    exact (run_pollsFirst s config w).poll_not_mem hsplit hc
  · intro before after hsplit
    exact hphases.shutdown (hsince.symm.trans hsplit)
  · rw [hsince]
    exact hphases.isManaged

/-- The calls of a run of a single line on a kernel without errors. -/
example : World.callsSince { handle := { config := oneLine } }
      (run ⟨{}, .ignoring⟩ oneLine { handle := { config := oneLine } }).2 =
    [.newManager "python3", .startKernel none, .managerClient, .startChannels,
      .waitForReady oneLine.launchTimeout, .execute "1", .stopChannels, .shutdownKernel,
      .cleanupResources] := rfl

end Run

end KernelJob
