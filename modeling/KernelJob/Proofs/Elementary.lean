import KernelJob.Proofs.Action

/-! # Elementary steps

The functions of a session and of a run are built from a few elementary steps, put together with the
operations on actions. What is built so can be reasoned about by induction on how it is built.

* **`Elementary`** — log records, lines for the receiver, calls, polls, the moment of cancellation,
  and the death of the kernel; **`Powers`** say which of them may be taken.
* **`World.view`** — what the parts of a run look at: not the trace, not the results that were
  gathered, not the limit for lines of output.
* **`Action.Built sink p x`** — the action `x` is built from elementary steps within the powers `p`.
* **`Action.Built.keeps`** — an action keeps what the elementary steps keep from which it is built.
-/

namespace KernelJob

/-- **An elementary step.** -/
inductive Elementary
  /-- A log record is written. -/
  | record (record : LogRecord)
  /-- A line is given to the receiver. -/
  | line (line : Text)
  /-- A call is made. -/
  | call (call : Call)
  /-- A message is asked for. -/
  | poll (poll : Poll)
  /-- The run is cancelled. -/
  | cancel
  /-- Something else is said of the kernel: it has died. -/
  | die (said : Liveness)

/-- An elementary step as an action. -/
def Elementary.perform (sink : Sink) : Elementary → Action Unit
  | .record r => Action.change (·.push (.record r))
  | .line t => Action.emit sink t
  | .call c => Action.call c
  | .poll p => Action.change (·.push (.poll p))
  | .cancel => Action.cancel
  | .die said => Action.change fun w => { w with alive := said }

/-- **Powers**: what may be done besides writing log records. -/
structure Powers where
  /-- To give lines to the receiver. -/
  speak : Bool := false
  /-- To make calls that submit nothing. -/
  call : Bool := false
  /-- To cancel the run. -/
  cancel : Bool := false
  /-- To ask for messages, in which the kernel may die. -/
  wait : Bool := false
  /-- To submit code. -/
  submit : Bool := false

namespace Powers

/-- Whether an elementary step is within some powers. -/
def Allows (p : Powers) : Elementary → Prop
  | .record _ => True
  | .line _ => p.speak = true
  | .call c => if c.source?.isSome then p.submit = true else p.call = true
  | .poll _ => p.wait = true
  | .cancel => p.cancel = true
  | .die _ => p.wait = true

/-- All powers of `p` are powers of `q`. -/
def Within (p q : Powers) : Prop :=
  (p.speak = true → q.speak = true) ∧ (p.call = true → q.call = true) ∧
    (p.cancel = true → q.cancel = true) ∧ (p.wait = true → q.wait = true) ∧
      (p.submit = true → q.submit = true)

instance (p q : Powers) : Decidable (p.Within q) := by
  unfold Within
  infer_instance

/-- What is within fewer powers is within more. -/
theorem Within.allows {p q : Powers} (h : p.Within q) {s : Elementary} (hs : p.Allows s) :
    q.Allows s := by
  obtain ⟨hspeak, hcall, hcancel, hwait, hsubmit⟩ := h
  cases s with
  | record r => trivial
  | line t => exact hspeak hs
  | call c =>
    rw [Allows] at hs ⊢
    by_cases hc : c.source?.isSome = true
    · rw [if_pos hc] at hs ⊢
      exact hsubmit hs
    · rw [if_neg hc] at hs ⊢
      exact hcall hs
  | poll p => exact hwait hs
  | cancel => exact hcancel hs
  | die said => exact hwait hs

end Powers

/-! ## What is looked at -/

/-- A configuration with another limit. -/
def RunConfig.withLimit (limit : Int) (c : RunConfig) : RunConfig := { c with maxResults := limit }

/-- A handle with another limit. -/
def Handle.withLimit (limit : Int) (h : Handle) : Handle :=
  { h with config := h.config.withLimit limit }

/-- **What the parts of a run look at**: a world without its trace, the results and the limit. -/
def World.view (w : World) : World :=
  { w with
    trace := []
    handle := w.handle.withLimit 0
    progress := { w.progress with results := [] } }

/-- **A change that no invariant of the trace can see.** It changes neither the trace, the results
and the limit nor whether the run is cancelled and the kernel alive; and what it changes the rest to
depends on nothing but what parts of a run look at. -/
structure Unseen (f : World → World) : Prop where
  trace : ∀ w, (f w).trace = w.trace
  cancelled : ∀ w, (f w).cancelled = w.cancelled
  alive : ∀ w, (f w).alive = w.alive
  results : ∀ w, (f w).progress.results = w.progress.results
  limit : ∀ w, (f w).handle.config.maxResults = w.handle.config.maxResults
  view : ∀ w, (f w).view = (f w.view).view

/-- A change of the handle in use is not seen if it has nothing to do with the limit. -/
theorem Unseen.changeHandle {f : Handle → Handle}
    (hf : ∀ h limit, f (h.withLimit limit) = (f h).withLimit limit) :
    Unseen fun w => { w with handle := f w.handle } where
  trace _ := rfl
  cancelled _ := rfl
  alive _ := rfl
  results _ := rfl
  limit w := congrArg (fun h => h.config.maxResults) (hf w.handle w.handle.config.maxResults)
  view w := by
    have hhandle : (f (w.handle.withLimit 0)).withLimit 0 = (f w.handle).withLimit 0 := by
      rw [hf]
      rfl
    exact congrArg (fun h => ({ w with
      trace := [], handle := h, progress := { w.progress with results := [] } } : World))
      hhandle.symm

namespace Action

/-- **Actions that are built from elementary steps** within some powers. -/
inductive Built (sink : Sink) (p : Powers) : {α : Type} → Action α → Prop
  /-- Nothing is done. -/
  | pure {α : Type} (a : α) : Built sink p (Pure.pure a : Action α)
  /-- It fails. -/
  | fail {α : Type} (e : Failure) : Built sink p (fail e : Action α)
  /-- One action after another. -/
  | bind {α β : Type} {x : Action α} {f : α → Action β} (hx : Built sink p x)
      (hf : ∀ a, Built sink p (f a)) : Built sink p (x >>= f)
  /-- An attempt. -/
  | attempt {α : Type} {x : Action α} (hx : Built sink p x) : Built sink p (attempt x)
  /-- A look at the world. -/
  | look {α : Type} {f : World → Action α} (hview : ∀ w, f w = f w.view)
      (hf : ∀ w, Built sink p (f w)) : Built sink p (world >>= f)
  /-- A change that is not seen. -/
  | change {f : World → World} (hf : Unseen f) : Built sink p (change f)
  /-- An elementary step. -/
  | step {s : Elementary} (hs : p.Allows s) : Built sink p (s.perform sink)

variable {α : Type} {sink : Sink} {p q : Powers} {I : World → Prop}

namespace Built

/-- What is built within fewer powers is built within more. -/
theorem mono {x : Action α} (h : Built sink p x) (hpq : p.Within q) : Built sink q x := by
  induction h with
  | pure a => exact .pure a
  | fail e => exact .fail e
  | bind _ _ ihx ihf => exact .bind ihx ihf
  | attempt _ ih => exact .attempt ih
  | look hview _ ih => exact .look hview ih
  | change hf => exact .change hf
  | step hs => exact .step (hpq.allows hs)

/-- An error of the kernel, if there is one. -/
theorem raiseKernel (e : Option KernelError) : Built sink p (raiseKernel e) := by
  cases e with
  | none => exact .pure ()
  | some e => exact .fail _

/-- A log record. -/
theorem record (l : LogLevel) (s : LogSource) (m : Text) : Built sink p (record l s m) :=
  .step (s := .record ⟨l, s, m⟩) trivial

/-- A call. -/
theorem call {c : Call} (hc : p.Allows (.call c)) : Built sink p (call c) := .step (s := .call c) hc

/-- Lines for the receiver. -/
theorem emitAll (hp : p.speak = true) (ts : List Text) : Built sink p (emitAll sink ts) := by
  induction ts with
  | nil => exact .pure ()
  | cons t ts ih => exact .bind (.step (s := .line t) hp) fun _ => ih

/-- A change of the handle in use. -/
theorem changeHandle {f : Handle → Handle}
    (hf : ∀ h limit, f (h.withLimit limit) = (f h).withLimit limit) :
    Built sink p (changeHandle f) :=
  .change (.changeHandle hf)

end Built

/-! ## Invariants -/

/-- **An invariant that elementary steps keep.** It depends on nothing but the trace, whether the
run is cancelled and whether the kernel is alive. -/
structure KeptBy (sink : Sink) (p : Powers) (I : World → Prop) : Prop where
  congr : ∀ ⦃v w : World⦄, I v → w.trace = v.trace → w.cancelled = v.cancelled →
    w.alive = v.alive → I w
  step : ∀ s, p.Allows s → Keeps I (s.perform sink)

/-- An invariant that is kept within more powers is kept within fewer. -/
theorem KeptBy.mono (h : KeptBy sink q I) (hpq : p.Within q) : KeptBy sink p I :=
  ⟨h.congr, fun s hs => h.step s (hpq.allows hs)⟩

/-- Whether the kernel is alive is kept by what does not wait for it. -/
theorem keptBy_alive (hp : p.wait = false) (alive : Liveness) :
    KeptBy sink p fun w => w.alive = alive where
  congr _ _ hv _ _ halive := halive.trans hv
  step s hs w hw := by
    cases s with
    | line t =>
      rw [Elementary.perform, emit_apply]
      exact (World.alive_emitted w sink t).trans hw
    | die said =>
      rw [Powers.Allows, hp] at hs
      cases hs
    | _ => exact hw

/-- **What an action keeps** follows from how it is built. -/
theorem Built.keeps {x : Action α} (h : Built sink p x) (hI : KeptBy sink p I) : Keeps I x := by
  induction h with
  | pure a => exact keeps_pure a
  | fail e => exact keeps_fail e
  | bind _ _ ihx ihf => exact ihx.bind ihf
  | attempt _ ih => exact ih.attempt
  | look _ _ ih => exact keeps_world.bind ih
  | change hf =>
    exact keeps_change fun w hw => hI.congr hw (hf.trace w) (hf.cancelled w) (hf.alive w)
  | step hs => exact hI.step _ hs

end Action

end KernelJob
