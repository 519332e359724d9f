import KernelJob.Proofs.Session.Unit
import KernelJob.Run.Orchestrate

/-! # Failures without a result

Only code that fails, or takes too long, gives a failure with a result. The other steps of the work
on a unit fail without one.

* **`Session.Plain`** — an action that fails without a result, if it fails.
* **`Sink.FailsPlainly`** — a receiver that fails without a result, if it fails. -/

namespace KernelJob

/-- **A receiver that fails without a result**, if it fails: it does not pass off a result of its
own as one of the code. -/
def Sink.FailsPlainly (sink : Sink) : Prop :=
  ∀ before line e, (sink.react before line).failure = some e → Run.faultResult? e = none

/-- A receiver that never fails does not fail with a result. -/
theorem Sink.NeverFails.failsPlainly {sink : Sink} (hs : sink.NeverFails) :
    sink.FailsPlainly :=
  fun before line e he => absurd he (hs.ne_some before line e)

namespace Session

open KernelJob.Action

/-- **An action that fails without a result**, if it fails. -/
def Plain {α : Type} (x : Action α) : Prop :=
  ∀ w, x.Ensures w (fun _ _ => True) fun e _ => Run.faultResult? e = none

theorem plain_interrupt (k : Kernel) : Plain (interrupt k) := by
  intro w
  refine (interrupt_ensures k (Steady.refl w)).mono (fun _ _ _ => trivial) ?_
  rintro _ _ ⟨-, error, rfl⟩
  rfl

theorem plain_saveArtifact (x : Execution) (data : Json) : Plain (saveArtifact x data) := by
  intro w
  unfold saveArtifact
  rw [ensures_bind, ensures_world]
  split
  · trivial
  · rw [ensures_bind, ensures_change]
    split
    · trivial
    · trivial
    · split
      · trivial
      · rfl

theorem plain_receive (x : Execution) (p : Poll) : Plain (receive x p) := by
  intro w
  rw [Ensures, receive_apply]
  show Ensures (deliver x p.delivery) _ _ _
  unfold deliver
  split
  · trivial
  · trivial
  · trivial
  · trivial
  · split
    · rfl
    · rfl

theorem plain_checkAlive : Plain checkAlive := by
  intro w
  unfold checkAlive
  rw [ensures_bind, ensures_world]
  split
  · trivial
  · rfl

theorem plain_submit (k : Kernel) (source : Text) : Plain (submit k source) := by
  intro w
  unfold submit
  rw [ensures_bind, ensures_call, ensures_bind, ensures_change, ensures_bind, ensures_world]
  dsimp only
  split
  · split
    · rfl
    · rfl
  · trivial

end Session

end KernelJob
