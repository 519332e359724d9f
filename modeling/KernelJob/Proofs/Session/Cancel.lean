import KernelJob.Proofs.Session.Built
import KernelJob.Proofs.Session.Unit

/-! # Units of a run that is cancelled

Cancellation is looked for at every turn of the wait for a kernel. A unit that ends with a result
was not cancelled, and a unit that was cancelled, on a kernel that is alive, is interrupted before
it fails.

* **`Session.Calm`** — a unit is waited for in a run that is not cancelled.
* **`Session.Interrupted`** — if the run is cancelled, the kernel was told to stop.
* **`Session.execute_heeds`** — a unit that ends with a result was not cancelled, and a unit that
  was cancelled was interrupted. -/

namespace KernelJob.Session

open KernelJob.Action

variable {x : Execution} {w₀ w : World} {sink : Sink}

/-- **A kernel that is still found alive** if it was in `w₀`. -/
def StillAlive (w₀ w : World) : Prop := w₀.isAlive = true → w.isAlive = true

/-- A kernel of which nothing else is said is still alive under the same connection. -/
theorem StillAlive.of_steady {v : World} {cs ds : List Call} (h : StillAlive w₀ v)
    (hv : Steady w₀ cs v) (hw : Steady w₀ ds w) (halive : w.alive = v.alive) :
    StillAlive w₀ w := by
  intro h₀
  rw [World.isAlive_congr (hw.manager.trans hv.manager.symm) halive]
  exact h h₀

/-- **A calm world**: since `w₀` nothing but the trace, the files and what was saved have changed;
the kernel is still alive, and the run is not cancelled. -/
structure Calm (w₀ w : World) : Prop where
  steady : Steady w₀ [] w
  alive : StillAlive w₀ w
  uncancelled : w.cancelled = false

/-- **A kernel that was told to stop if the run is cancelled**: then the calls to interrupt it were
made, and no others. -/
def Interrupted (w₀ w : World) : Prop :=
  w.cancelled = true → w₀.isAlive = true → Steady w₀ w₀.handle.interruptCalls w

/-- In a run that is not cancelled there is nothing to stop. -/
theorem interrupted_of_uncancelled (h : w.cancelled = false) : Interrupted w₀ w := by
  intro hc
  rw [h] at hc
  cases hc

/-- Whether the run is cancelled and what is said of the kernel is kept by what neither cancels the
run nor waits for the kernel. -/
theorem keptBy_flags (hs : sink.NeverCancels) (cancelled : Bool) (alive : Liveness) :
    KeptBy sink { speak := true, call := true } fun w =>
      w.cancelled = cancelled ∧ w.alive = alive where
  congr _ _ hv _ hcancelled halive := ⟨hcancelled.trans hv.1, halive.trans hv.2⟩
  step s hs' w hw := by
    cases s with
    | record r => exact hw
    | line t =>
      rw [Elementary.perform, emit_apply, World.emitted_of_neverCancels hs]
      exact hw
    | call c => exact hw
    | poll p => cases hs'
    | cancel => cases hs'
    | die said => cases hs'

/-- A turn begins calmly, or else the kernel was told to stop if the run is cancelled. -/
theorem checkTurn_calm (hs : x.sink.NeverCancels) (c : Captured) (h : Steady w₀ [] w)
    (halive : StillAlive w₀ w) :
    (checkTurn x c).Ensures w (fun _ => Calm w₀) (fun _ => Interrupted w₀) := by
  by_cases hc : w.cancelled = true
  · unfold checkTurn
    rw [ensures_bind, ensures_world]
    dsimp only
    rw [if_pos hc, ensures_bind]
    refine (interrupt_ensures x.kernel h).mono ?_ ?_
    · exact fun _ w' hw' _ _ => hw'
    · exact fun _ w' hw' _ _ => hw'.1
  · -- without cancellation nothing is cancelled by looking for it
    have hflags := ((checkTurn_built c).keeps (keptBy_flags hs false w.alive)).ensures
      ⟨Bool.eq_false_iff.mpr hc, rfl⟩
    refine ((checkTurn_ensures c h).and hflags).mono ?_ ?_
    · exact fun _ w' hw' => ⟨hw'.1, halive.of_steady h hw'.1 hw'.2.2, hw'.2.1⟩
    · exact fun _ w' hw' => interrupted_of_uncancelled hw'.2.1

/-- What a poll does in a calm world: a message leaves it calm; otherwise the run may be cancelled,
or something else may be said of the kernel, but not both at once. -/
theorem receive_calm (p : Poll) (h : Calm w₀ w) :
    (receive x p).Ensures w
      (fun r w' => match r with
        | some _ => Calm w₀ w'
        | none => Steady w₀ [] w' ∧ (StillAlive w₀ w' ∨ w'.cancelled = false))
      (fun _ => Interrupted w₀) := by
  have hflags : (receive x p).Ensures w
      (fun r w' => match r with
        | some _ => StillAlive w₀ w' ∧ w'.cancelled = false
        | none => StillAlive w₀ w' ∨ w'.cancelled = false)
      (fun _ w' => w'.cancelled = false) := by
    rw [Ensures, receive_apply]
    cases p.delivery with
    | message toRequest => exact ⟨h.alive, h.uncancelled⟩
    | empty => exact .inl h.alive
    | death said => exact .inr h.uncancelled
    | cancel => exact .inl h.alive
    | failure e =>
      show Ensures (deliver x (.failure e)) _ _ _
      rw [deliver]
      split
      · exact h.uncancelled
      · exact h.uncancelled
  refine ((receive_ensures p h.steady).and hflags).mono ?_ ?_
  · rintro (_ | message) w' ⟨hsteady, hw'⟩
    · exact ⟨hsteady, hw'⟩
    · exact ⟨hsteady, hw'.1, hw'.2⟩
  · exact fun _ _ hw => interrupted_of_uncancelled hw.2

/-- A calm world stays calm while a message is taken into account. -/
theorem handleMessage_calm (hs : x.sink.NeverCancels) (message : Json) (c : Captured)
    (h : Calm w₀ w) :
    (handleMessage x message c).Ensures w (fun _ => Calm w₀) (fun _ => Interrupted w₀) := by
  have hsteady := (invariant_steady x w₀).toCapturing.handleMessage message (c := c) h.steady
  have hkept := (keptBy_flags hs false w.alive).mono (p := { speak := true }) (by decide)
  have hflags := (capturing_keeps hkept).handleMessage message (c := c) ⟨h.uncancelled, rfl⟩
  refine (hsteady.and hflags).mono ?_ ?_
  · rintro (c | c) w' ⟨hsteady, hflags⟩
    · exact ⟨hsteady, h.alive.of_steady h.steady hsteady hflags.2, hflags.1⟩
    · exact ⟨hsteady, h.alive.of_steady h.steady hsteady hflags.2, hflags.1⟩
  · exact fun _ w' hw' => interrupted_of_uncancelled hw'.2.1

/-- A silent kernel is waited for calmly until it is found dead. -/
theorem drainSilence_calm (hs : x.sink.NeverCancels) (c : Captured) (waits : Nat)
    (h : Steady w₀ [] w) (halive : StillAlive w₀ w) :
    (drainSilence x c waits).Ensures w (fun _ => Calm w₀) (fun _ => Interrupted w₀) := by
  induction waits generalizing w with
  | zero =>
    refine (checkTurn_calm hs c h halive).bind fun _ w' hw' => ?_
    rw [ensures_bind, ensures_advance, ensures_bind, ensures_change, ensures_bind, checkAlive,
      ensures_bind, ensures_world, World.isAlive, Handle.findsAlive_same]
    exact interrupted_of_uncancelled hw'.uncancelled
  | succ waits ih =>
    refine (checkTurn_calm hs c h halive).bind fun _ w' hw' => ?_
    rw [ensures_bind, ensures_advance, ensures_bind, checkAlive, ensures_bind, ensures_world]
    split
    · exact ih (hw'.steady.of_eq rfl rfl rfl rfl) hw'.alive
    · exact interrupted_of_uncancelled hw'.uncancelled

/-- **The wait for a kernel heeds cancellation.** It completes only in a run that is not cancelled;
if the run is cancelled while it lasts, the kernel is told to stop unless it has died. -/
theorem drain_calm (hs : x.sink.NeverCancels) (c : Captured) (polls : List Poll)
    (h : Steady w₀ [] w) (halive : StillAlive w₀ w) :
    (drain x c polls).Ensures w (fun _ => Calm w₀) (fun _ => Interrupted w₀) := by
  -- after a poll the run may be cancelled; the next turn notices
  induction polls generalizing c w with
  | nil => exact drainSilence_calm hs c _ h halive
  | cons p ps ih =>
    refine (checkTurn_calm hs c h halive).bind fun _ w hw => ?_
    refine (receive_calm p hw).bind fun r w hr => ?_
    rcases r with _ | message
    · obtain ⟨hsteady, hflags⟩ := hr
      rw [ensures_bind, checkAlive, ensures_bind, ensures_world]
      split
      · exact ih c hsteady fun _ => ‹_›
      · -- a kernel that was alive and is found dead was not cancelled
        rename_i hdied
        intro hcancelled halive
        rcases hflags with hsame | huncancelled
        · exact absurd (hsame halive) hdied
        · rw [huncancelled] at hcancelled
          cases hcancelled
    · refine (handleMessage_calm hs message c hr).bind fun progressed w hw => ?_
      rcases progressed with c | c
      · exact ih c hw.steady hw.alive
      · exact hw

/-! ## The whole unit -/

/-- **How the work on a unit heeds cancellation** if it fails: in a run that is cancelled by then,
on a kernel that was alive, the unit was submitted and the kernel was told to stop. -/
def Heeds (unit : CodeUnit) (w₀ w : World) : Prop :=
  w.cancelled = true → w₀.isAlive = true →
    Steady w₀ (.execute unit.source :: w₀.handle.interruptCalls) w

/-- A unit is submitted and waited for. -/
theorem runUnit_heeds (hs : sink.NeverCancels) (k : Kernel) (unit : CodeUnit) (start : Float)
    (h : w.cancelled = false) :
    (runUnit k sink unit start).Ensures w
      (fun _ w' => Steady w [.execute unit.source] w' ∧ StillAlive w w' ∧ w'.cancelled = false)
      (fun _ => Heeds unit w) := by
  have hsubmit : (submit k unit.source).Ensures w
      (fun _ w' => StillAlive w w' ∧ w'.cancelled = false)
      (fun _ w' => w'.cancelled = false) := by
    unfold submit
    rw [ensures_bind, ensures_call, ensures_bind, ensures_change, ensures_bind, ensures_world]
    dsimp only
    split
    · split
      · exact h
      · exact h
    · exact ⟨id, h⟩
  unfold runUnit
  refine Ensures.bind (((submit_ensures k unit.source w).and hsubmit).mono (fun _ _ h => h) ?_) ?_
  · rintro e w' ⟨-, huncancelled⟩ hc
    rw [huncancelled] at hc
    cases hc
  rintro ⟨request, polls⟩ v ⟨hsteady, halive, -⟩
  rw [ensures_bind, ensures_world]
  refine Ensures.bind ((drain_calm hs _ polls (Steady.refl v) id).mono (fun _ _ h => h) ?_) ?_
  · intro e w' hinterrupted hc ha
    rw [← hsteady.interruptCalls]
    exact hsteady.trans (hinterrupted hc (halive ha))
  · intro c w' hcalm
    exact ⟨hsteady.trans hcalm.steady, fun ha => hcalm.alive (halive ha), hcalm.uncancelled⟩

/-- **Executing a unit heeds cancellation.** A unit that ends with a result was not cancelled. If
the run is cancelled when a unit fails, and the kernel was alive, then the unit was submitted and
the kernel was told to stop. -/
theorem execute_heeds (hs : sink.NeverCancels) (k : Kernel) (task : Text) (unit : CodeUnit)
    (hw : w.handle.state = .connected) (h : w.cancelled = false) :
    (execute k sink task unit).Ensures w
      (fun _ w' => Steady w [.execute unit.source] w' ∧ StillAlive w w' ∧ w'.cancelled = false)
      (fun _ => Heeds unit w) := by
  unfold execute
  rw [ensures_bind, ensures_world, if_pos (.inl hw), ensures_bind, ensures_record, ensures_bind,
    ensures_changeHandle, ensures_bind, ensures_attempt]
  refine Ensures.mono (runUnit_heeds hs k unit w.clock ?_) ?_ ?_
  · exact h
  · rintro ⟨x, c⟩ w' ⟨hsteady, halive, huncancelled⟩
    rw [ensures_bind, ensures_changeHandle, ensures_bind, ensures_ofExcept]
    dsimp only
    rw [ensures_bind]
    refine (makeResult_ensures x c _).mono ?_ ?_
    · rintro r w'' ⟨rfl, -⟩
      split
      · exact fun hc => absurd (huncancelled.symm.trans hc) (by decide)
      · refine ⟨hsteady.resume hw rfl, fun ha => ?_, huncancelled⟩
        rw [← halive ha]
        refine World.isAlive_congr ?_ rfl
        dsimp only
        split <;> rfl
    · rintro e w'' ⟨rfl, -⟩ hc
      exact absurd (huncancelled.symm.trans hc) (by decide)
  · intro e w' hheeds hc ha
    exact (hheeds hc ha).resume hw rfl

end KernelJob.Session
