import KernelJob.Proofs.Action
import KernelJob.Proofs.Json.Clean
import KernelJob.Run.Orchestrate

/-! # Clean worlds

A kernel is clean if no text of its messages and errors holds a surrogate, and a world is if what
was gathered in it is clean. A receiver that prints takes every clean line.

* **`Kernel.Clean`**, **`Failure.Clean`**, **`World.Clean`** — no text holds a surrogate.
* **`Sink.Prints`** — a receiver that takes every clean line, and says something clean of the
  others.
* **`Collector.Clean.step`** — clean output is collected into clean lines. -/

namespace KernelJob

open KernelJob.Action

/-! ## Clean kernels -/

/-- What an error of a kernel says is clean. -/
def KernelError.Clean (e : KernelError) : Prop := e.detail.Clean

/-- What asking for a message brings is clean; a message may name a clean request. -/
def Delivery.Clean : Delivery → Prop
  | .message toRequest => ∀ request : Text, request.Clean → (toRequest request).Clean
  | .failure e => e.Clean
  | _ => True

/-- What a kernel does with one piece of code is clean. -/
structure Response.Clean (r : Response) : Prop where
  polls : ∀ p ∈ r.polls, p.delivery.Clean
  error : ∀ e, r.error = some e → e.Clean

/-- The errors of the operations of a kernel. -/
def Kernel.errors (k : Kernel) : List (Option KernelError) :=
  [k.loadError, k.startError, k.channelsError, k.readyError, k.stopError, k.shutdownError,
    k.cleanupError, k.interruptError]

/-- **A clean kernel**: its errors and its messages are clean. -/
structure Kernel.Clean (k : Kernel) : Prop where
  errors : ∀ o ∈ k.errors, ∀ e, o = some e → e.Clean
  responses : ∀ r ∈ k.responses, r.Clean
  ownResponses : ∀ number, ∀ r ∈ k.ownResponses number, r.Clean

/-! ## Clean worlds -/

/-- The texts of a result are clean. -/
structure UnitResult.Clean (r : UnitResult) : Prop where
  output : r.output.Clean
  error : r.error.Clean

/-- **A clean failure**: what it says is clean, and the result that it comes with, if any. -/
structure Failure.Clean (e : Failure) : Prop where
  message : e.message.Clean
  result : ∀ r, Run.faultResult? e = some r → r.Clean

/-- What a run has gathered is clean. -/
structure Progress.Clean (p : Progress) : Prop where
  kernel : p.kernel.Clean
  serverName : p.serverName.Clean
  task : p.task.Clean
  results : ∀ r ∈ p.results, r.Clean
  diagnostics : ∀ m ∈ p.diagnostics, m.Clean

/-- **A clean world**: what was gathered is clean, and the kernel in use has a clean name. -/
structure World.Clean (w : World) : Prop where
  kernel : w.handle.config.kernel.Clean
  progress : w.progress.Clean

/-- A clean failure in a clean world. -/
def Failure.CleanIn (e : Failure) (w : World) : Prop := e.Clean ∧ w.Clean

/-- A failure without a result is clean if what it says is. -/
theorem Failure.Clean.of_message {e : Failure} (h : e.message.Clean)
    (hresult : Run.faultResult? e = none) : e.Clean :=
  ⟨h, fun r hr => by rw [hresult] at hr; cases hr⟩

/-- The error of a kernel is a clean failure if it is clean. -/
theorem KernelError.Clean.message {e : KernelError} (h : e.Clean) : e.message.Clean := by
  unfold KernelError.message
  split
  · exact Text.clean_append.mpr ⟨Text.clean_ofString _, h⟩
  · exact h

/-- What is said of a file operation is clean: it quotes the path. -/
@[simp] theorem FileFault.clean_message (f : FileFault) : f.message.Clean := by
  cases f with
  | os cause path =>
    have hwords : cause.words.Clean := by cases cause <;> exact Text.clean_ofString _
    simp [FileFault.message, hwords]
  | null => exact Text.clean_ofString _
  | encoding fault => exact fault.clean_message

@[simp] theorem ConfigFault.clean_message (f : ConfigFault) : f.message.Clean := by
  cases f <;> simp [ConfigFault.message]

@[simp] theorem CancelPoint.clean_message (p : CancelPoint) : p.message.Clean := by
  cases p <;> simp [CancelPoint.message]

@[simp] theorem CodeFault.clean_ofTimeout (seconds : Float) :
    (ofTimeout seconds).message.Clean := by
  simp [message, ofTimeout, Json.shown]

theorem Failure.clean_kernel {e : KernelError} (h : e.Clean) : (Failure.kernel e).Clean :=
  .of_message h.message rfl

theorem Failure.clean_misfit {m : Misfit} (h : m.Clean) : (Failure.misfit m).Clean :=
  .of_message h rfl

variable {w : World}

/-- A line for a receiver leaves a world clean. -/
theorem World.Clean.emitted (h : w.Clean) (sink : Sink) (line : Text) :
    (w.emitted sink line).Clean :=
  ⟨by rw [World.handle_emitted]; exact h.kernel, by rw [World.progress_emitted]; exact h.progress⟩

/-! ## Receivers that print -/

/-- **A receiver that prints**: it takes every clean line, and what it says of the others is
clean. -/
structure Sink.Prints (sink : Sink) : Prop where
  accepts : ∀ before line, line.Clean → (sink.react before line).failure = none
  complains : ∀ before line e, (sink.react before line).failure = some e → e.Clean

variable {sink : Sink}

/-- Lines for a receiver that prints leave a world clean, whatever they hold. -/
theorem emit_clean (hs : sink.Prints) (line : Text) (hw : w.Clean) :
    (emit sink line).Ensures w (fun _ => World.Clean) Failure.CleanIn := by
  unfold Ensures
  rw [emit_apply]
  cases hfailure : (sink.react w.lines line).failure with
  | none => exact hw.emitted sink line
  | some e => exact ⟨hs.complains _ _ e hfailure, hw.emitted sink line⟩

theorem emitAll_clean (hs : sink.Prints) (lines : List Text) (hw : w.Clean) :
    (emitAll sink lines).Ensures w (fun _ => World.Clean) Failure.CleanIn := by
  induction lines generalizing w with
  | nil => exact hw
  | cons line lines ih => exact (emit_clean hs line hw).bind fun _ _ hw => ih hw

/-- A clean line is taken: nothing has to be said of failures. -/
theorem emit_taken {E : Failure → World → Prop} (hs : sink.Prints) {line : Text}
    (hline : line.Clean) (hw : w.Clean) : (emit sink line).Ensures w (fun _ => World.Clean) E := by
  unfold Ensures
  rw [emit_apply, hs.accepts _ line hline]
  exact hw.emitted sink line

/-! ## Collecting output -/

/-- The text of a step of output is clean. -/
def OutputStep.Clean : OutputStep → Prop
  | .text t => t.Clean
  | .block t => t.Clean
  | .flush => True

/-- The lines of a collector are clean, the open one included. -/
structure Collector.Clean (c : Collector) : Prop where
  lines : ∀ l ∈ c.lines, l.Clean
  pending : c.pending.Clean

namespace Collector

variable {c : Collector}

theorem Clean.addLines (h : c.Clean) {ls : List Text} (hls : ∀ l ∈ ls, l.Clean) :
    (c.addLines ls).Clean := by
  refine ⟨?_, h.pending⟩
  rw [lines_addLines, List.forall_mem_append]
  exact ⟨h.lines, fun l hl => hls l (List.mem_of_mem_take hl)⟩

theorem Clean.flush (h : c.Clean) : c.flush.Clean := by
  unfold Collector.flush
  split
  · exact h
  · exact ⟨(h.addLines (List.forall_mem_singleton.mpr h.pending)).lines, Text.clean_nil⟩

/-- Clean output keeps a collector clean. -/
theorem Clean.step (h : c.Clean) {step : OutputStep} (hstep : step.Clean) :
    (c.step step).Clean := by
  cases step with
  | text t =>
    have hpieces : ∀ piece ∈ Text.splitOn newline (c.pending ++ t), piece.Clean :=
      (Text.clean_append.mpr ⟨h.pending, hstep⟩).splitOn
    refine ⟨(h.addLines fun l hl => hpieces l (List.dropLast_subset _ hl)).lines, ?_⟩
    show Text.Clean (Option.getD _ [])
    cases hlast : (Text.splitOn newline (c.pending ++ t)).getLast? with
    | none => exact Text.clean_nil
    | some piece => exact hpieces piece (List.mem_of_getLast? hlast)
  | block t => exact h.flush.addLines hstep.lines
  | flush => exact h.flush

/-- The lines of a clean collector are a clean text. -/
theorem Clean.text (h : c.Clean) : c.text.Clean :=
  Text.clean_join (Text.clean_cons.mpr ⟨rfl, Text.clean_nil⟩) h.lines

end Collector

end KernelJob
