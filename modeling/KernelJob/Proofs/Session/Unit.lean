import KernelJob.Proofs.Session.Drain

/-! # The work on a unit

What executing a unit does to the world, whatever the kernel and the receiver of the lines do.

* **`Session.Steady w₀ cs w`** — since `w₀` the calls `cs` were made; the connection, what the run
  has gathered and how far it has come are the same. A unit can only add to the trace, to the files
  and to what was saved.
* **`Session.execute_ensures`** — on a connected handle a unit is submitted exactly once; it ends
  with the result of this unit, or with a failure that blames no other unit, and at most one
  attempt to interrupt the kernel has been made by then. -/

namespace KernelJob

/-- **The connection of a handle**: the handle without what it has saved. -/
def Handle.connection (h : Handle) : Handle := { h with artifacts := none }

/-- The calls that interrupting a kernel makes: none if it was not started here. -/
def Handle.interruptCalls (h : Handle) : List Call :=
  if h.ownsKernel then [.interruptKernel] else []

/-- Handles with the same manager interrupt their kernel by the same calls. -/
theorem Handle.interruptCalls_congr {h h' : Handle} (hm : h'.manager = h.manager) :
    h'.interruptCalls = h.interruptCalls := by
  rw [interruptCalls, ownsKernel, hm, interruptCalls, ownsKernel]

/-- **A failure that blames a unit**: a result that it comes with is that of the unit, which
failed. -/
def Failure.Blames (unit : Int) : Failure → Prop
  | .code _ result => result.sequenceNumber = unit ∧ result.outcome = .fault
  | .timeout _ result => result.sequenceNumber = unit ∧ result.outcome = .fault
  | _ => True

namespace Session

open KernelJob.Action

/-- **A world that is steady since another one**: the calls `cs` were made, and the connection, what
the run has gathered and how far it has come are the same. -/
structure Steady (w₀ : World) (cs : List Call) (w : World) : Prop where
  connection : w.handle.connection = w₀.handle.connection
  progress : w.progress = w₀.progress
  state : w.state = w₀.state
  calls : w.calls = w₀.calls ++ cs

namespace Steady

variable {u v w : World} {cs ds : List Call}

theorem refl (w : World) : Steady w [] w := ⟨rfl, rfl, rfl, (List.append_nil _).symm⟩

theorem trans (h : Steady u cs v) (h' : Steady v ds w) : Steady u (cs ++ ds) w :=
  ⟨h'.connection.trans h.connection, h'.progress.trans h.progress, h'.state.trans h.state, by
    rw [h'.calls, h.calls, List.append_assoc]⟩

/-- An event that is no call leaves a world steady. -/
theorem push (h : Steady u cs v) {e : Event} (he : e.call? = none) : Steady u cs (v.push e) :=
  ⟨h.connection, h.progress, h.state, by
    rw [World.calls_push, he, h.calls]
    exact List.append_nil _⟩

/-- A call is added to the calls. -/
theorem call (h : Steady u cs v) (c : Call) : Steady u (cs ++ [c]) (v.push (.call c)) :=
  ⟨h.connection, h.progress, h.state, by simp [h.calls, Event.call?]⟩

/-- A line for a receiver leaves a world steady. -/
theorem emitted (h : Steady u cs v) (sink : Sink) (line : Text) :
    Steady u cs (v.emitted sink line) :=
  ⟨by simpa using h.connection, by simpa using h.progress, by simpa using h.state, by
    simpa using h.calls⟩

/-- A world that differs from a steady one only in what a unit may change is steady. -/
theorem of_eq (h : Steady u cs v) (hc : w.handle.connection = v.handle.connection)
    (hp : w.progress = v.progress) (hs : w.state = v.state) (ht : w.trace = v.trace) :
    Steady u cs w :=
  ⟨hc.trans h.connection, hp.trans h.progress, hs.trans h.state,
    (World.calls_congr ht).trans h.calls⟩

/-- The handles of steady worlds have the same configuration. -/
theorem config (h : Steady u cs v) : v.handle.config = u.handle.config :=
  (congrArg Handle.config h.connection :)

/-- The handles of steady worlds are in the same state. -/
theorem handleState (h : Steady u cs v) : v.handle.state = u.handle.state :=
  (congrArg Handle.state h.connection :)

/-- The handles of steady worlds have the same manager. -/
theorem manager (h : Steady u cs v) : v.handle.manager = u.handle.manager :=
  (congrArg Handle.manager h.connection :)

/-- The handles of steady worlds have a client or have none. -/
theorem hasClient (h : Steady u cs v) : v.handle.hasClient = u.handle.hasClient :=
  (congrArg Handle.hasClient h.connection :)

/-- In steady worlds the same calls interrupt the kernel. -/
theorem interruptCalls (h : Steady u cs v) : v.handle.interruptCalls = u.handle.interruptCalls :=
  Handle.interruptCalls_congr h.manager

end Steady

/-- **A failure in a steady world**: it blames no other unit, unless the receiver of the lines is
the one who fails. -/
structure Stopped (x : Execution) (w₀ : World) (cs : List Call) (e : Failure) (w : World) :
    Prop where
  steady : Steady w₀ cs w
  blames : x.sink.NeverFails → e.Blames x.unit

variable {x : Execution} {w₀ w : World} {cs : List Call}

/-- A failure without a result blames no unit. -/
theorem Steady.stopped (h : Steady w₀ cs w) {e : Failure} (he : e.Blames x.unit) :
    Stopped x w₀ cs e w :=
  ⟨h, fun _ => he⟩

/-! ## Steps that leave the world steady -/

/-- The result of a unit is that of the unit; it failed if an error was noted. -/
theorem makeResult_ensures (x : Execution) (c : Captured) (w : World) :
    (makeResult x c).Ensures w
      (fun r w' => w' = w ∧ r.sequenceNumber = x.unit ∧
        r.outcome = if c.fault.isSome then .fault else .success)
      (fun e w' => w' = w ∧ ∃ fault, e = .clock fault) := by
  unfold makeResult
  rw [ensures_bind, ensures_world]
  split
  · exact ⟨rfl, rfl, rfl⟩
  · exact ⟨rfl, _, rfl⟩

/-- Collected output goes to the receiver line by line. -/
theorem collect_ensures (step : OutputStep) (c : Captured) (h : Steady w₀ cs w) :
    (collect x step c).Ensures w (fun _ => Steady w₀ cs) (Stopped x w₀ cs) := by
  unfold collect
  refine ((ensures_emitAll (fun w line hw => hw.emitted x.sink line) _ h).mono
    (fun _ _ hw => hw) fun _ _ hw => ?_).bind fun _ _ hw => hw
  exact ⟨hw.1, fun hs => absurd hs hw.2⟩

/-- Saving an output changes files and what was saved. -/
theorem saveArtifact_ensures (data : Json) (h : Steady w₀ cs w) :
    (saveArtifact x data).Ensures w (fun _ => Steady w₀ cs) (Stopped x w₀ cs) := by
  unfold saveArtifact
  rw [ensures_bind, ensures_world]
  split
  · exact h
  · have hw : ∀ files store, Steady w₀ cs { w with
        files := files, handle := { w.handle with artifacts := store } } :=
      fun _ _ => h.of_eq rfl rfl rfl rfl
    rw [ensures_bind, ensures_change]
    split
    · exact hw _ _
    · exact (hw _ _).push rfl
    · split
      · exact (hw _ _).push rfl
      · exact (hw _ _).stopped trivial

/-- A delivery changes what is said of the kernel, and whether the run is cancelled. -/
theorem deliver_ensures (d : Delivery) (h : Steady w₀ cs w) :
    (deliver x d).Ensures w (fun _ => Steady w₀ cs) (Stopped x w₀ cs) := by
  cases d with
  | message toRequest => exact h
  | empty => exact h
  | death said => exact h.of_eq rfl rfl rfl rfl
  | cancel => exact (h.of_eq (w := { w with cancelled := true }) rfl rfl rfl rfl).push rfl
  | failure e =>
    rw [deliver]
    split
    · exact h.stopped trivial
    · exact h.stopped trivial

/-- A poll changes besides only the clock. -/
theorem receive_ensures (p : Poll) (h : Steady w₀ cs w) :
    (receive x p).Ensures w (fun _ => Steady w₀ cs) (Stopped x w₀ cs) := by
  have hp : Steady w₀ cs (w.push (.poll p)) := h.push rfl
  unfold receive
  rw [ensures_bind, ensures_change]
  rcases p.advance with _ | seconds
  · exact deliver_ensures p.delivery hp
  · exact deliver_ensures p.delivery (hp.of_eq rfl rfl rfl rfl)

/-! ## Giving up -/

/-- Interrupting a kernel that was started here makes one call; only the user can make it fail. -/
theorem interrupt_ensures (k : Kernel) (h : Steady w₀ [] w) :
    (interrupt k).Ensures w (fun _ => Steady w₀ w₀.handle.interruptCalls)
      (fun e w' => Steady w₀ w₀.handle.interruptCalls w' ∧ ∃ error, e = .kernel error) := by
  rw [← h.interruptCalls]
  unfold interrupt Handle.interruptCalls
  rw [ensures_bind, ensures_world]
  split
  · have hc : Steady w₀ [.interruptKernel] (w.push (.call .interruptKernel)) := h.call _
    simp only [ensures_bind, ensures_attempt, ensures_call, ensures_raiseKernel]
    split
    · split
      · exact hc.push rfl
      · exact ⟨hc, _, rfl⟩
    · exact hc.push rfl
  · exact h.push rfl

/-- **How the work on a unit is given up**: at most one attempt to interrupt the kernel was made,
and no other unit is blamed. -/
def GivenUp (x : Execution) (w₀ : World) (e : Failure) (w : World) : Prop :=
  ∃ cs, (cs = [] ∨ cs = w₀.handle.interruptCalls) ∧ Stopped x w₀ cs e w

/-- A failure before any attempt to interrupt the kernel gives the unit up. -/
theorem Stopped.givenUp {e : Failure} (h : Stopped x w₀ [] e w) : GivenUp x w₀ e w :=
  ⟨[], .inl rfl, h⟩

/-- A failure after an attempt to interrupt the kernel gives the unit up. -/
theorem Stopped.givenUp_of_interrupted {e : Failure}
    (h : Stopped x w₀ w₀.handle.interruptCalls e w) : GivenUp x w₀ e w :=
  ⟨_, .inr rfl, h⟩

/-- A failure after an attempt to interrupt the kernel, when the receiver is not the one who fails.
-/
theorem Steady.givenUp {e : Failure} (h : Steady w₀ w₀.handle.interruptCalls w)
    (he : e.Blames x.unit) : GivenUp x w₀ e w :=
  (h.stopped he).givenUp_of_interrupted

/-- An unit is given up after an attempt to interrupt the kernel, whether that succeeds or not. -/
theorem interrupt_bind_ensures {α : Type} {f : Unit → Action α} {Q : α → World → Prop}
    (h : Steady w₀ [] w)
    (hf : ∀ w', Steady w₀ w₀.handle.interruptCalls w' → (f ()).Ensures w' Q (GivenUp x w₀)) :
    (interrupt x.kernel >>= f).Ensures w Q (GivenUp x w₀) := by
  refine Ensures.bind ((interrupt_ensures x.kernel h).mono (fun _ _ hw => hw) ?_)
    fun _ w' hw => hf w' hw
  rintro e w' ⟨hw, error, rfl⟩
  exact hw.givenUp trivial

/-- A turn that ends the wait tries to interrupt the kernel first. -/
theorem checkTurn_ensures (c : Captured) (h : Steady w₀ [] w) :
    (checkTurn x c).Ensures w (fun _ => Steady w₀ []) (GivenUp x w₀) := by
  unfold checkTurn
  rw [ensures_bind, ensures_world]
  dsimp only
  split
  · -- the run was cancelled
    exact interrupt_bind_ensures h fun w hw => hw.givenUp trivial
  split
  · exact h
  split
  · -- the deadline has passed
    refine interrupt_bind_ensures h fun w hw => ?_
    refine Ensures.bind ((collect_ensures _ c hw).mono (fun _ _ hw => hw)
      fun _ _ he => he.givenUp_of_interrupted) fun c w hw => ?_
    refine Ensures.bind ((makeResult_ensures x _ w).mono (fun _ _ hr => hr) ?_) ?_
    · rintro e w ⟨rfl, fault, rfl⟩
      exact hw.givenUp trivial
    · rintro r w ⟨rfl, hr⟩
      exact hw.givenUp hr
  · exact h

/-- **Waiting for a kernel leaves the world steady**, and no call is made unless the unit is given
up. -/
theorem invariant_steady (x : Execution) (w₀ : World) :
    Invariant x (fun _ => Steady w₀ []) (GivenUp x w₀) where
  collect step c _ h := (collect_ensures step c h).mono (fun _ _ h => h) fun _ _ h => h.givenUp
  fault _ _ _ h := h
  save data _ _ h := (saveArtifact_ensures data h).mono (fun _ _ h => h) fun _ _ h => h.givenUp
  misfit _ _ _ h := Stopped.givenUp ⟨h, fun _ => trivial⟩
  turn c _ h := checkTurn_ensures c h
  receive p _ _ h := (receive_ensures p h).mono (fun _ _ h => h) fun _ _ h => h.givenUp
  advance _ _ _ h := h.of_eq rfl rfl rfl rfl
  die _ _ _ h := h.of_eq rfl rfl rfl rfl
  died _ _ h := Stopped.givenUp ⟨h, fun _ => trivial⟩

/-! ## The whole unit -/

/-- Code is submitted by one call. -/
theorem submit_ensures (k : Kernel) (source : Text) (w : World) :
    (submit k source).Ensures w (fun _ => Steady w [.execute source])
      (fun e w' => Steady w [.execute source] w' ∧ ∀ unit, e.Blames unit) := by
  have hc : Steady w [.execute source]
      { w.push (.call (.execute source)) with requests := w.requests + 1 } :=
    ((Steady.refl w).call _).of_eq rfl rfl rfl rfl
  unfold submit
  rw [ensures_bind, ensures_call, ensures_bind, ensures_change, ensures_bind, ensures_world]
  dsimp only
  split
  · split
    · exact ⟨hc, fun _ => trivial⟩
    · exact ⟨hc, fun _ => trivial⟩
  · exact hc

/-- **How executing a unit fails**: the unit was submitted once, at most one attempt to interrupt
the kernel followed, and no other unit is blamed. -/
structure Failed (sink : Sink) (unit : CodeUnit) (w₀ : World) (e : Failure) (w : World) : Prop where
  steady : ∃ cs, (cs = [] ∨ cs = w₀.handle.interruptCalls) ∧
    Steady w₀ (.execute unit.source :: cs) w
  blames : sink.NeverFails → e.Blames unit.sequenceNumber

/-- A unit is submitted once and waited for. -/
theorem runUnit_ensures (k : Kernel) (sink : Sink) (unit : CodeUnit) (start : Float) (w : World) :
    (runUnit k sink unit start).Ensures w
      (fun r w' => Steady w [.execute unit.source] w' ∧ r.1.unit = unit.sequenceNumber)
      (Failed sink unit w) := by
  unfold runUnit
  refine Ensures.bind ((submit_ensures k unit.source w).mono (fun _ _ h => h) ?_) ?_
  · rintro e w' ⟨hs, he⟩
    exact ⟨⟨[], .inl rfl, hs⟩, fun _ => he _⟩
  rintro ⟨request, polls⟩ w₁ hs
  rw [ensures_bind, ensures_world]
  dsimp only
  refine Ensures.bind (((invariant_steady _ w₁).drain polls (Steady.refl w₁)).mono
    (fun _ _ h => h) ?_) ?_
  · rintro e w' ⟨cs, hcs, hstop⟩
    rw [hs.interruptCalls] at hcs
    exact ⟨⟨cs, hcs, hs.trans hstop.steady⟩, hstop.blames⟩
  · intro c w' hw'
    exact ⟨hs.trans hw', rfl⟩

/-- The handle is connected again after the work on a unit. -/
theorem Steady.resume {w w' : World} {cs : List Call} {e : Event} (hw : w.handle.state = .connected)
    (he : e.call? = none)
    (h : Steady { w.push e with handle := { w.handle with state := .executing } } cs w') :
    Steady w cs { w' with handle := if w'.handle.state = .executing
      then { w'.handle with state := .connected } else w'.handle } := by
  have hconfig : w'.handle.config = w.handle.config := h.config
  have hmanager : w'.handle.manager = w.handle.manager := h.manager
  have hclient : w'.handle.hasClient = w.handle.hasClient := h.hasClient
  have hcalls : w'.calls = (w.push e).calls ++ cs := h.calls
  rw [World.calls_push, he, Option.toList_none, List.append_nil] at hcalls
  -- the unit has left the handle executing
  rw [if_pos h.handleState]
  refine ⟨?_, h.progress, h.state, (World.calls_congr rfl).trans hcalls⟩
  rw [Handle.connection, Handle.connection, ← hconfig, ← hmanager, ← hclient, hw]

/-- **Executing a unit on a connected handle.** The unit is submitted exactly once. If it ends with
a result, that is the result of this unit and a success, and no attempt to interrupt the kernel was
made. -/
theorem execute_ensures (k : Kernel) (sink : Sink) (task : Text) (unit : CodeUnit) {w : World}
    (hw : w.handle.state = .connected) :
    (execute k sink task unit).Ensures w
      (fun r w' => Steady w [.execute unit.source] w' ∧
        r.sequenceNumber = unit.sequenceNumber ∧ r.outcome = .success)
      (Failed sink unit w) := by
  unfold execute
  rw [ensures_bind, ensures_world, if_pos (.inl hw), ensures_bind, ensures_record, ensures_bind,
    ensures_changeHandle, ensures_bind, ensures_attempt]
  refine (runUnit_ensures k sink unit w.clock _).mono ?_ ?_
  · rintro ⟨x, c⟩ w' ⟨hs, hunit⟩
    have hr := hs.resume hw rfl
    rw [ensures_bind, ensures_changeHandle, ensures_bind, ensures_ofExcept]
    dsimp only
    rw [ensures_bind]
    refine (makeResult_ensures x c _).mono ?_ ?_
    · rintro r w'' ⟨rfl, hseq, hout⟩
      split
      · -- an error was noted: the unit failed
        rename_i fault hf
        rw [hf] at hout
        exact ⟨⟨[], .inl rfl, hr⟩, fun _ => ⟨hseq.trans hunit, hout⟩⟩
      · rename_i hf
        rw [hf] at hout
        exact ⟨hr, hseq.trans hunit, hout⟩
    · rintro e w'' ⟨rfl, fault, rfl⟩
      exact ⟨⟨[], .inl rfl, hr⟩, fun _ => trivial⟩
  · rintro e w' ⟨⟨cs, hcs, hs⟩, hblames⟩
    exact ⟨⟨cs, hcs, hs.resume hw rfl⟩, hblames⟩

end Session

end KernelJob
