import KernelJob.Proofs.Session.Release
import KernelJob.Session.Connect

/-! # Connecting, all or nothing

Connecting begins things one after the other: a manager, a kernel, a client. If a step fails, what
was begun should be let go before the failure leaves.

* **`Session.connectSteps_ensures`** — the calls of the steps, in order, and the handle that they
  end with.
* **`Session.connect_ensures`** — what connecting does to the rest of the world.
* **`Session.connect_all_or_nothing_iff`** — connecting is all or nothing exactly as long as the
  failure is one that the session knows what to make of and the user does not interrupt the release
  before its last step. -/

namespace KernelJob

namespace Session

open KernelJob.Action ReleaseStep

/-! ## The steps of connecting -/

/-- **The calls of connecting**, in order: to the kernel of a connection file, or to one that is
started in a directory. -/
def connectCalls (config : RunConfig) (directory : Option Text) : List Call :=
  (match config.connectionFile with
    | some file => [.newClient file.text, .loadConnectionFile]
    | none => [.newManager config.kernel, .startKernel directory, .managerClient]) ++
  [.startChannels, .waitForReady config.launchTimeout]

/-- Connecting submits nothing. -/
theorem source?_connectCalls {config : RunConfig} {directory : Option Text} :
    ∀ c ∈ connectCalls config directory, c.source? = none := by
  cases hf : config.connectionFile <;> simp [connectCalls, hf, Call.source?]

/-- Connecting releases nothing. -/
theorem isRelease_connectCalls {config : RunConfig} {directory : Option Text} :
    ∀ c ∈ connectCalls config directory, c.isRelease = false := by
  cases hf : config.connectionFile <;> simp [connectCalls, hf, Call.isRelease]

/-- **A world that connecting has reached**: the handle is `h`, and the calls `cs` were made since
`w₀`; what the run has gathered and how far it has come are the same. -/
structure Reached (w₀ : World) (h : Handle) (cs : List Call) (w : World) : Prop where
  handle : w.handle = h
  calls : w.calls = w₀.calls ++ cs
  progress : w.progress = w₀.progress
  state : w.state = w₀.state

namespace Reached

variable {w₀ w : World} {h : Handle} {cs : List Call}

theorem record (hw : Reached w₀ h cs w) (r : LogRecord) : Reached w₀ h cs (w.push (.record r)) :=
  ⟨hw.handle, by simp [hw.calls, Event.call?], hw.progress, hw.state⟩

theorem call (hw : Reached w₀ h cs w) (c : Call) : Reached w₀ h (cs ++ [c]) (w.push (.call c)) :=
  ⟨hw.handle, by simp [hw.calls, Event.call?], hw.progress, hw.state⟩

theorem cancel (hw : Reached w₀ h cs w) :
    Reached w₀ h cs ({ w with cancelled := true }.push .cancel) :=
  ⟨hw.handle, by rw [World.calls_push]; exact (List.append_nil _).trans hw.calls,
    hw.progress, hw.state⟩

theorem changeHandle (hw : Reached w₀ h cs w) (f : Handle → Handle) :
    Reached w₀ (f h) cs { w with handle := f w.handle } :=
  ⟨congrArg f hw.handle, hw.calls, hw.progress, hw.state⟩

end Reached

/-- A world that connecting has reached when it fails: a first part of its calls was made. -/
def Stranded (config : RunConfig) (w₀ w : World) : Prop :=
  ∃ h directory cs, cs <+: connectCalls config directory ∧ Reached w₀ h cs w

variable {k : Kernel} {config : RunConfig} {w₀ w : World} {h : Handle}

/-- Attaching leaves the handle as it is. -/
theorem attach_ensures {file : Path} (hf : config.connectionFile = some file)
    (hw : Reached w₀ h [] w) :
    (attach k file).Ensures w
      (fun _ => Reached w₀ h [.newClient file.text, .loadConnectionFile])
      (fun _ => Stranded config w₀) := by
  unfold attach
  have hc := ((hw.record ⟨.info, .session, "Attaching to kernel via " ++ file.text⟩).call
    (.newClient file.text)).call .loadConnectionFile
  simp only [ensures_bind, ensures_record, ensures_call, ensures_raiseKernel]
  split
  · refine ⟨h, none, _, ?_, hc⟩
    rw [connectCalls, hf]
    exact List.prefix_append _ _
  · exact hc

/-- Starting a kernel gives the handle its manager. -/
theorem start_ensures (hf : config.connectionFile = none) (hw : Reached w₀ h [] w) :
    (start k config).Ensures w
      (fun _ w' => ∃ directory, Reached w₀ { h with manager := some ⟨true⟩ }
        [.newManager config.kernel, .startKernel directory, .managerClient] w')
      (fun _ => Stranded config w₀) := by
  have hc := ((hw.record ⟨.info, .session, "Starting kernel '" ++ config.kernel ++ "'"⟩).call
    (.newManager config.kernel)).changeHandle fun h => { h with manager := some {} }
  have stranded : ∀ {h' w' cs} (directory : Option Text), Reached w₀ h' cs w' →
      cs <+: [.newManager config.kernel, .startKernel directory] → Stranded config w₀ w' := by
    intro h' w' cs directory hw' hcs
    refine ⟨h', directory, cs, hcs.trans ?_, hw'⟩
    rw [connectCalls, hf]
    exact ⟨_, rfl⟩
  unfold start launchDirectory
  simp only [ensures_bind, ensures_record, ensures_call, ensures_changeHandle, ensures_world]
  split
  · -- the workspace could not be looked at
    exact stranded none hc ⟨_, rfl⟩
  rw [ensures_pure]
  split
  · -- there is no such kernel
    exact stranded _ (hc.call _) (List.prefix_refl _)
  rw [ensures_bind, ensures_raiseKernel]
  split
  · exact stranded _ (hc.call _) (List.prefix_refl _)
  · exact ⟨_, ((hc.call _).changeHandle fun h => { h with manager := some ⟨true⟩ }).call _⟩

/-- A kernel that is not ready strands the connection. -/
theorem waitForReady_ensures (hw : Reached w₀ h cs w) :
    (waitForReady k config).Ensures w
      (fun _ => Reached w₀ h (cs ++ [.waitForReady config.launchTimeout]))
      (fun _ => Reached w₀ h (cs ++ [.waitForReady config.launchTimeout])) := by
  unfold waitForReady
  have hc := hw.call (.waitForReady config.launchTimeout)
  rw [ensures_bind, ensures_call]
  split
  · rw [ensures_bind, ensures_cancel, ensures_raiseKernel]
    split <;> exact hc.cancel
  · rw [ensures_raiseKernel]
    split <;> exact hc

/-- Joining gives the handle its client. -/
theorem join_ensures (hw : Reached w₀ h cs w) :
    (join k config).Ensures w
      (fun _ => Reached w₀ { h with hasClient := true }
        (cs ++ [.startChannels, .waitForReady config.launchTimeout]))
      (fun _ w' => ∃ ds, ds <+: cs ++ [.startChannels, .waitForReady config.launchTimeout] ∧
        Reached w₀ { h with hasClient := true } ds w') := by
  have hc := (hw.changeHandle fun h => { h with hasClient := true }).call .startChannels
  have all : (cs ++ [.startChannels]) ++ [.waitForReady config.launchTimeout] =
      cs ++ [.startChannels, .waitForReady config.launchTimeout] := List.append_assoc ..
  unfold join
  -- the client belongs to the handle before its channels are started
  rw [ensures_bind, ensures_changeHandle, ensures_bind, ensures_call, ensures_bind,
    ensures_raiseKernel, ← all]
  split
  · exact ⟨_, List.prefix_append _ _, hc⟩
  · refine (waitForReady_ensures hc).mono (fun _ _ hw => hw) fun _ _ hw => ?_
    exact ⟨_, List.prefix_refl _, hw⟩

/-- The handle with which the steps of connecting end: it has a client, and a manager with a kernel
if the kernel was started. -/
def joinedHandle (config : RunConfig) : Handle :=
  { config := config, hasClient := true
    manager := if config.connectionFile = none then some ⟨true⟩ else none }

/-- The handle with which connecting ends. -/
def openHandle (config : RunConfig) : Handle :=
  { joinedHandle config with
    state := .connected
    artifacts := config.artifactDirectory.map fun dir => .new dir config.task }

/-- **The steps of connecting** make their calls in order. If all succeed, the handle has a client,
and a manager with a kernel if the kernel was started. -/
theorem connectSteps_ensures (k : Kernel) (hw : Reached w₀ { config := config } [] w) :
    (connectSteps k config).Ensures w
      (fun _ w' => ∃ directory,
        Reached w₀ (joinedHandle config) (connectCalls config directory) w')
      (fun _ => Stranded config w₀) := by
  unfold connectSteps
  rcases hf : config.connectionFile with _ | file
  · refine (start_ensures hf hw).bind fun _ w' hw' => ?_
    obtain ⟨directory, hw'⟩ := hw'
    refine (join_ensures hw').mono (fun _ w'' hw'' => ⟨directory, ?_⟩) ?_
    · rw [connectCalls, joinedHandle, if_pos hf, hf]
      exact hw''
    · rintro e w'' ⟨ds, hds, hw''⟩
      exact ⟨_, directory, ds, by rw [connectCalls, hf]; exact hds, hw''⟩
  · refine (attach_ensures hf hw).bind fun _ w' hw' => ?_
    refine (join_ensures hw').mono (fun _ w'' hw'' => ⟨none, ?_⟩) ?_
    · rw [connectCalls, joinedHandle, if_neg (by simp [hf]), hf]
      exact hw''
    · rintro e w'' ⟨ds, hds, hw''⟩
      exact ⟨_, none, ds, by rw [connectCalls, hf]; exact hds, hw''⟩

/-! ## Connecting as a whole -/

/-- The steps of connecting, from a new handle. -/
def connecting (k : Kernel) (config : RunConfig) (w : World) : Except Failure Unit × World :=
  connectSteps k config { w with handle := { config := config } }

/-- Whether a failed connection is released: the failure is known to mean that, or the user
interrupts it. -/
def isHandled (config : RunConfig) (e : Failure) : Bool :=
  (connectReason? config e).isSome || !e.isOrdinary

/-- The calls with which a failed connection is released, if it is. -/
def abandonCalls (k : Kernel) (config : RunConfig) (e : Failure) (h : Handle) : List Call :=
  if isHandled config e then carriedOut (h.releasePlan k) else []

/-- Abandoning a connection submits nothing. -/
theorem source?_abandonCalls (k : Kernel) (config : RunConfig) (e : Failure) (h : Handle) :
    (abandonCalls k config e h).filterMap Call.source? = [] := by
  unfold abandonCalls
  split
  · exact source?_carriedOut h k
  · rfl

/-- Abandoning a connection fails. It makes the calls of a release if the failure is handled, and
none if not. -/
theorem abandon_ensures (k : Kernel) (config : RunConfig) (e : Failure) (w : World) :
    (abandon k config e).Ensures w (fun _ _ => False) (fun _ w' =>
      w'.calls = w.calls ++ abandonCalls k config e w.handle ∧ w'.progress = w.progress ∧
        w'.state = w.state) := by
  -- a release, whatever it completes with, and a failure after it
  have released : ∀ e', isHandled config e = true →
      (do let _ ← release k; fail e' : Action Unit).Ensures w (fun _ _ => False) (fun _ w' =>
        w'.calls = w.calls ++ abandonCalls k config e w.handle ∧ w'.progress = w.progress ∧
          w'.state = w.state) := by
    intro e' he
    rw [ensures_bind, abandonCalls, if_pos he]
    refine (release_ensures k w).mono (fun _ w' hw => ?_) (fun _ w' hw => ?_)
    · exact ⟨hw.1.calls, hw.1.progress, hw.1.state⟩
    · exact ⟨hw.1.calls, hw.1.progress, hw.1.state⟩
  unfold abandon
  rcases hr : connectReason? config e with _ | reason
  · dsimp only
    split
    · rename_i ho
      rw [ensures_fail, abandonCalls, if_neg (by simp [isHandled, hr, ho])]
      exact ⟨(List.append_nil _).symm, rfl, rfl⟩
    · rename_i ho
      exact released e (by simp [isHandled, ho])
  · exact released _ (by simp [isHandled, hr])

/-- Connecting is taking its steps, and abandoning them if one fails. -/
theorem connect_apply (k : Kernel) (config : RunConfig) (w : World) :
    connect k config w =
      match connecting k config w with
      | (.ok _, w') =>
        (.ok (), { w' with
          handle := { w'.handle with
            state := .connected
            artifacts := config.artifactDirectory.map fun dir => .new dir config.task } }.push
          (.record ⟨.info, .session, "Connection to kernel '" ++ config.kernel ++
            "' initiated successfully"⟩))
      | (.error e, w') =>
        ((abandon k config e w').1, { (abandon k config e w').2 with handle := w.handle }) := by
  unfold connect connecting
  simp only [bind_apply, world_apply, attempt_apply, changeHandle, change_apply]
  rcases connectSteps k config _ with ⟨e | _, w'⟩
  · simp only [bind_apply, attempt_apply, change_apply]
    rcases abandon k config e w' with ⟨_ | _, _⟩ <;> rfl
  · rfl

/-- A connection whose steps fail fails, after it has been abandoned. -/
theorem connect_of_error {k : Kernel} {config : RunConfig} {w : World} {e : Failure}
    (h : (connecting k config w).1 = .error e) :
    (∃ e', (connect k config w).1 = .error e') ∧
      (connect k config w).2.calls = (connecting k config w).2.calls ++
        abandonCalls k config e (connecting k config w).2.handle := by
  have ha := abandon_ensures k config e (connecting k config w).2
  rw [connect_apply]
  rcases hs : connecting k config w with ⟨r, w'⟩
  rw [hs] at h ha
  subst h
  unfold Ensures at ha
  rcases hr : abandon k config e w' with ⟨e' | _, w''⟩ <;> rw [hr] at ha
  · exact ⟨⟨e', by dsimp only; rw [hr]⟩, by dsimp only; rw [hr]; exact ha.1⟩
  · exact ha.elim

/-- **Connecting** either takes all its steps and ends with a connected handle, or it fails, keeps
the handle that was there and submits nothing. What the run has gathered and how far it has come
stay the same. -/
theorem connect_ensures (k : Kernel) (config : RunConfig) (w : World) :
    (connect k config).Ensures w
      (fun _ w' => ∃ directory, Reached w (openHandle config) (connectCalls config directory) w')
      (fun _ w' => ∃ cs, cs.filterMap Call.source? = [] ∧ Reached w w.handle cs w') := by
  have hstart : Reached w { config := config } [] { w with handle := { config := config } } :=
    ⟨rfl, (World.calls_congr rfl).trans (List.append_nil _).symm, rfl, rfl⟩
  unfold connect
  rw [ensures_bind, ensures_world, ensures_bind, ensures_changeHandle, ensures_bind,
    ensures_attempt]
  refine (connectSteps_ensures k hstart).mono ?_ ?_
  · rintro _ w' ⟨directory, hw⟩
    exact ⟨directory, (hw.changeHandle fun h => { h with
      state := .connected
      artifacts := config.artifactDirectory.map fun dir => .new dir config.task }).record _⟩
  · -- a step failed: the calls up to it and those of the release submit nothing
    rintro e w' ⟨h, directory, cs, hcs, hw⟩
    dsimp only
    rw [ensures_bind, ensures_attempt]
    refine (abandon_ensures k config e w').mono (fun _ _ hf => hf.elim) ?_
    rintro e' w'' ⟨hcalls, hprogress, hstate⟩
    rw [ensures_bind, ensures_changeHandle]
    refine ⟨cs ++ abandonCalls k config e w'.handle, ?_, rfl, ?_, ?_, ?_⟩
    · rw [List.filterMap_append, source?_abandonCalls, List.append_nil, List.filterMap_eq_nil_iff]
      exact fun c hc => source?_connectCalls c (hcs.subset hc)
    · refine (World.calls_congr (w := w'') rfl).trans ?_
      rw [hcalls, hw.calls, List.append_assoc]
    · exact hprogress.trans hw.progress
    · exact hstate.trans hw.state

/-! ## All or nothing -/

/-- **Connecting is all or nothing from a world**: it completes with a connected handle, or it fails
after it has let go of what its steps had given the handle by then. -/
def AllOrNothing (k : Kernel) (config : RunConfig) (w : World) : Prop :=
  ((connect k config w).1 = .ok () ∧ (connect k config w).2.handle.state = .connected) ∨
  ((∃ e, (connect k config w).1 = .error e) ∧
    (connecting k config w).2.handle.LetGoBy (World.callsSince w (connect k config w).2))

/-- A connection whose steps fail makes, since it began, calls that release nothing and those with
which it is abandoned. -/
theorem callsSince_connect_of_error {k : Kernel} {config : RunConfig} {w : World} {e : Failure}
    (h : (connecting k config w).1 = .error e) :
    ∃ cs, (∀ c ∈ cs, c.isRelease = false) ∧
      World.callsSince w (connect k config w).2 =
        cs ++ abandonCalls k config e (connecting k config w).2.handle := by
  have hstart : Reached w { config := config } [] { w with handle := { config := config } } :=
    ⟨rfl, (World.calls_congr (w := w) rfl).trans (List.append_nil _).symm, rfl, rfl⟩
  obtain ⟨h', directory, cs, hcs, hw⟩ := (ensures_iff.mp (connectSteps_ensures k hstart)).2 e h
  have hcalls : (connecting k config w).2.calls = w.calls ++ cs := hw.calls
  refine ⟨cs, fun c hc => isRelease_connectCalls c (hcs.subset hc), ?_⟩
  rw [World.callsSince_eq]
  rw [(connect_of_error h).2, hcalls, List.append_assoc]

/-- What a connection had begun when its steps failed is let go exactly if abandoning it makes the
calls of all steps of the release. -/
theorem letGoBy_connect_iff {k : Kernel} {config : RunConfig} {w : World} {e : Failure}
    (h : (connecting k config w).1 = .error e) :
    (connecting k config w).2.handle.LetGoBy (World.callsSince w (connect k config w).2) ↔
      ∀ s ∈ (connecting k config w).2.handle.releasePlan k,
        s.call ∈ abandonCalls k config e (connecting k config w).2.handle := by
  obtain ⟨cs, hcs, hcalls⟩ := callsSince_connect_of_error h
  rw [hcalls, Handle.letGoBy_iff _ k]
  refine forall₂_congr fun s hplan => ?_
  rw [List.mem_append, or_iff_right]
  -- the calls before are none of a release
  intro hmem
  have hrelease := Handle.isRelease_releasePlan _ s hplan
  rw [hcs _ hmem] at hrelease
  cases hrelease

/-- Abandoning a connection makes the calls of all steps of the release exactly if there are none,
or the failure is handled and no step before the last is interrupted. -/
theorem forall_mem_abandonCalls_iff (k : Kernel) (config : RunConfig) (e : Failure) (h : Handle) :
    (∀ s ∈ h.releasePlan k, s.call ∈ abandonCalls k config e h) ↔
      h.releasePlan k = [] ∨
        (isHandled config e = true ∧ (h.releasePlan k).dropLast.any isInterrupted = false) := by
  rw [abandonCalls]
  by_cases hhandled : isHandled config e = true
  · rw [if_pos hhandled, forall_mem_carriedOut_iff (h.nodup_releasePlan k), and_iff_right hhandled]
    refine ⟨.inr, ?_⟩
    rintro (hnil | hany)
    · rw [hnil]
      rfl
    · exact hany
  · -- no call is made, so that no step may be asked for
    rw [if_neg hhandled, or_iff_left fun h => hhandled h.1, List.eq_nil_iff_forall_not_mem]
    exact forall₂_congr fun s _ => by simp

/-- **Connecting is all or nothing exactly if** a failure of one of its steps finds nothing begun,
or it is handled and the user does not interrupt the release before its last step. -/
theorem connect_all_or_nothing_iff (k : Kernel) (config : RunConfig) (w : World) :
    AllOrNothing k config w ↔ ∀ e, (connecting k config w).1 = .error e →
      ((connecting k config w).2.handle.hasClient = false ∧
        (connecting k config w).2.handle.manager = none) ∨
      (isHandled config e = true ∧
        ((connecting k config w).2.handle.releasePlan k).dropLast.any isInterrupted = false) := by
  rcases hs : (connecting k config w).1 with e | _
  · -- a step failed
    obtain ⟨⟨e', hfailed⟩, -⟩ := connect_of_error hs
    have hnot : ¬ ((connect k config w).1 = .ok () ∧
        (connect k config w).2.handle.state = .connected) := by
      rw [hfailed]
      exact fun h => nomatch h.1
    rw [AllOrNothing, or_iff_right hnot, and_iff_right ⟨e', hfailed⟩, letGoBy_connect_iff hs,
      forall_mem_abandonCalls_iff, Handle.releasePlan_eq_nil_iff]
    simp only [Except.error.injEq, forall_eq']
  · -- the steps of connecting were taken
    have hconnect := connect_apply k config w
    rcases hw : connecting k config w with ⟨r, w'⟩
    rw [hw] at hs hconnect
    subst hs
    refine iff_of_true (.inl ?_) fun e he => nomatch he
    rw [hconnect]
    exact ⟨rfl, rfl⟩

/-- A kernel whose answer, when it is asked whether it is ready, is not acceptable. -/
def badReply : Kernel := { readyError := some ⟨.value, "bad reply"⟩ }

/-- A run that starts a kernel of its own. -/
def startedHere : RunConfig := { kernel := "python3", workspace := .ofText "ws" }

/-- A started kernel that does not answer acceptably is left running, and its client connected. -/
theorem not_allOrNothing_badReply :
    ¬ AllOrNothing badReply startedHere { handle := { config := startedHere } } := by
  have hfail : (connecting badReply startedHere { handle := { config := startedHere } }).1 =
      .error (.kernel ⟨.value, "bad reply"⟩) := rfl
  obtain ⟨cs, hcs, hcalls⟩ := callsSince_connect_of_error hfail
  rintro (⟨hok, -⟩ | ⟨-, hchannels, -⟩)
  · obtain ⟨⟨e, he⟩, -⟩ := connect_of_error hfail
    rw [he] at hok
    cases hok
  · -- the client is there, and stopping its channels would be a release
    have hmem := hchannels rfl
    rw [hcalls] at hmem
    rcases List.mem_append.mp hmem with hmem | hmem
    · exact Bool.noConfusion (hcs _ hmem)
    · cases hmem

end Session

end KernelJob
