import KernelJob.Proofs.Action
import KernelJob.Session.Execute

/-! # The loop that waits for a kernel

While a unit is executed, messages are asked for and taken into account until the kernel is idle
again. Everything that can happen on the way is one of a few steps: output is collected or saved, an
error is noted, a turn is checked, a poll is received, time passes, the kernel dies.

* **`Session.Capturing x I E`** — each step of taking a message into account keeps the invariant `I`
  of what was captured and the world, or fails with `E`.
* **`Session.Invariant x I E`** — so does every other step of the wait.
* **`Session.Invariant.drain`** — then so does the whole loop, for every list of polls. -/

namespace KernelJob

open KernelJob.Action

/-- The clock after a poll. -/
def Poll.clockAfter (now : Float) (p : Poll) : Float :=
  match p.advance with
  | some seconds => now + seconds
  | none => now

namespace Session

@[simp] theorem ensures_advance {Q : Unit → World → Prop} {E : Failure → World → Prop} {w : World}
    (seconds : Float) :
    (advance seconds).Ensures w Q E ↔ Q () { w with clock := w.clock + seconds } := Iff.rfl

/-- **An invariant of capturing what a kernel says.** `I` relates what was captured to the world and
is kept by every step of taking a message into account that completes; a step that fails leads to
`E`. -/
structure Capturing (x : Execution) (I : Captured → World → Prop) (E : Failure → World → Prop) :
    Prop where
  /-- Output is collected. -/
  collect : ∀ step c w, I c w → (Session.collect x step c).Ensures w I E
  /-- An error that the kernel reports is noted. -/
  fault : ∀ fault c w, I c w → I { c with fault := some fault } w
  /-- An output is saved. -/
  save : ∀ data c w, I c w → (saveArtifact x data).Ensures w (fun _ => I c) E
  /-- A message has an unexpected shape. -/
  misfit : ∀ m c w, I c w → E (.misfit m) w

/-- **An invariant of the wait for a kernel**, kept by every step of it. -/
structure Invariant (x : Execution) (I : Captured → World → Prop) (E : Failure → World → Prop) :
    Prop extends Capturing x I E where
  /-- A turn begins. -/
  turn : ∀ c w, I c w → (checkTurn x c).Ensures w (fun _ => I c) E
  /-- A poll is received. -/
  receive : ∀ p c w, I c w → (Session.receive x p).Ensures w (fun _ => I c) E
  /-- Time passes. -/
  advance : ∀ seconds c w, I c w → I c { w with clock := w.clock + seconds }
  /-- Something else is said of the kernel. -/
  die : ∀ said c w, I c w → I c { w with alive := said }
  /-- The kernel is found dead. -/
  died : ∀ c w, I c w → E (.transport (.died w.handle.config.kernel)) w

namespace Capturing

variable {x : Execution} {I : Captured → World → Prop} {E : Failure → World → Prop}

/-- A value that a message should hold is there or the message is a misfit. -/
theorem ofMisfit {α : Type} (h : Capturing x I E) {c : Captured} {w : World} (hw : I c w)
    (r : Except Misfit α) :
    (ofExcept (r.mapError Failure.misfit)).Ensures w (fun _ => I c) E := by
  rcases r with m | a
  · exact h.misfit m c w hw
  · exact hw

/-! ## Messages -/

/-- The plain text of an output is collected. -/
theorem collectPlain (h : Capturing x I E) (data : Json) {c : Captured} {w : World} (hw : I c w) :
    (Session.collectPlain x data c).Ensures w I E := by
  unfold Session.collectPlain
  refine (h.ofMisfit hw _).bind fun plain w hw => ?_
  split
  · refine (h.ofMisfit hw _).bind fun joined w hw => ?_
    split
    · exact h.collect _ _ _ hw
    · -- a value that is no text ends the open line before it is refused
      refine (h.collect _ _ _ hw).bind fun c w hw => ?_
      exact h.misfit _ c w hw
  · exact hw

/-- An output in several types is saved or its plain text is collected. -/
theorem collectRich (h : Capturing x I E) (content : Json) {c : Captured} {w : World}
    (hw : I c w) : (Session.collectRich x content c).Ensures w I E := by
  unfold Session.collectRich
  refine (h.ofMisfit hw _).bind fun data w hw => ?_
  refine (h.save data c w hw).bind fun saved w hw => ?_
  rcases saved with _ | name
  · exact h.collectPlain data hw
  · exact h.collect _ _ _ hw

/-- The lines of a traceback are collected one after the other. -/
theorem collectTraceback (h : Capturing x I E) (items : List Json) {c : Captured} {w : World}
    (hw : I c w) : (Session.collectTraceback x items c).Ensures w I E := by
  induction items generalizing c w with
  | nil => exact hw
  | cons item items ih =>
    cases item with
    | text t => exact (h.collect _ _ _ hw).bind fun _ _ hw => ih hw
    | _ => exact h.misfit _ c w hw

/-- What a message means keeps the invariant for what was captured then. -/
def Progresses (I : Captured → World → Prop) : Progressed → World → Prop
  | .more c, w => I c w
  | .idle c, w => I c w

/-- A message about the request is taken into account. -/
theorem handleOwn (h : Capturing x I E) (type content : Json) {c : Captured} {w : World}
    (hw : I c w) : (Session.handleOwn x type content c).Ensures w (Progresses I) E := by
  unfold Session.handleOwn
  split
  · -- streamed text
    refine (h.ofMisfit hw _).bind fun text w hw => ?_
    split
    · exact (h.collect _ _ _ hw).bind fun _ _ hw => hw
    · exact h.misfit _ c w hw
  split
  · -- an output in several types
    exact (h.collectRich content hw).bind fun _ _ hw => hw
  split
  · -- an error of the code
    refine (h.ofMisfit hw _).bind fun fault w hw => ?_
    refine (h.ofMisfit hw _).bind fun items w hw => ?_
    exact (h.collectTraceback items (h.fault fault c w hw)).bind fun _ _ hw => hw
  split
  · -- a new state of the kernel
    refine (h.ofMisfit hw _).bind fun state w hw => ?_
    split
    · exact (h.collect _ _ _ hw).bind fun _ _ hw => hw
    · exact hw
  · exact hw

/-- A message is taken into account. -/
theorem handleMessage (h : Capturing x I E) (message : Json) {c : Captured} {w : World}
    (hw : I c w) : (Session.handleMessage x message c).Ensures w (Progresses I) E := by
  unfold Session.handleMessage
  refine (h.ofMisfit hw _).bind fun about w hw => ?_
  split
  · refine (h.ofMisfit hw _).bind fun header w hw => ?_
    refine (h.ofMisfit hw _).bind fun type w hw => ?_
    refine (h.ofMisfit hw _).bind fun content w hw => ?_
    exact h.handleOwn type content hw
  · exact hw

end Capturing

/-! ## Waiting -/

/-- A poll is received, the clock goes on, and then there is a delivery. -/
theorem receive_apply (x : Execution) (p : Poll) (w : World) :
    receive x p w = deliver x p.delivery
      { w.push (.poll p) with clock := p.clockAfter w.clock } := by
  unfold receive Poll.clockAfter
  rw [bind_apply, change_apply]
  dsimp only
  cases p.advance <;> rfl

namespace Invariant

variable {x : Execution} {I : Captured → World → Prop} {E : Failure → World → Prop}

/-- A kernel is found alive or dead. -/
theorem checkAlive (h : Invariant x I E) {c : Captured} {w : World} (hw : I c w) :
    Session.checkAlive.Ensures w (fun _ => I c) E := by
  unfold Session.checkAlive
  rw [ensures_bind, ensures_world]
  split
  · exact hw
  · exact h.died c w hw

/-- A silent kernel is waited for. -/
theorem drainSilence (h : Invariant x I E) (waits : Nat) {c : Captured} {w : World} (hw : I c w) :
    (Session.drainSilence x c waits).Ensures w I E := by
  induction waits generalizing w with
  | zero =>
    refine (h.turn c w hw).bind fun _ w hw => ?_
    simp only [ensures_bind, ensures_advance, ensures_change]
    exact h.checkAlive (h.die _ c _ (h.advance _ c w hw))
  | succ waits ih =>
    refine (h.turn c w hw).bind fun _ w hw => ?_
    rw [ensures_bind, ensures_advance]
    exact (h.checkAlive (h.advance _ c w hw)).bind fun _ _ hw => ih hw

/-- **The wait for a kernel keeps an invariant of its steps**, for every list of polls. -/
theorem drain (h : Invariant x I E) (polls : List Poll) {c : Captured} {w : World} (hw : I c w) :
    (Session.drain x c polls).Ensures w I E := by
  induction polls generalizing c w with
  | nil => exact h.drainSilence _ hw
  | cons p ps ih =>
    refine (h.turn c w hw).bind fun _ w hw => ?_
    refine (h.receive p c w hw).bind fun message w hw => ?_
    rcases message with _ | message
    · exact (h.checkAlive hw).bind fun _ _ hw => ih hw
    · refine (h.handleMessage message hw).bind fun progressed w hw => ?_
      rcases progressed with c | c
      · exact ih hw
      · exact hw

end Invariant

end Session

end KernelJob
