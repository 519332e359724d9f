import Mathlib.Data.List.Infix
import KernelJob.Proofs.Output.Abridged
import KernelJob.Proofs.Session.Capture
import KernelJob.Proofs.Session.Lines

/-! # Output as it is collected

Output comes in steps, and a collector goes on from one to the next: a line that is left open by one
piece of streamed text is continued by another one. What it keeps in the end, and what its receiver
was given by then, is the beginning of all lines of the output.

* **`OutputStep.allLines_texts`** — how streamed text is cut into pieces decides about no line.
* **`Session.collectAll_keeps`** — steps that were collected leave a collector without a limit, cut
  to its limit, and its lines have been given out.
* **`Session.KeptInAll`**, **`Session.KeptSoFar`** — what is kept in the end and at a moment before.
* **`Session.collect_refines`** — what is kept of some output is the beginning of all of its lines.
-/

namespace KernelJob

namespace OutputStep

/-- Pieces of streamed text make the run longer, and nothing else. -/
theorem linesAfter_texts (run : Text) (pieces : List Text) (steps : List OutputStep) :
    linesAfter run (pieces.map .text ++ steps) = linesAfter (run ++ pieces.flatten) steps := by
  induction pieces generalizing run with
  | nil => simp
  | cons piece pieces ih =>
    rw [List.map_cons, List.cons_append, linesAfter, ih, List.flatten_cons, List.append_assoc]

/-- **How streamed text is cut into pieces decides about no line.** -/
theorem allLines_texts (before : List OutputStep) (pieces : List Text) (after : List OutputStep) :
    allLines (before ++ pieces.map .text ++ after) =
      allLines (before ++ .text pieces.flatten :: after) := by
  -- whatever run is open when the pieces come, they continue it
  have h : ∀ run, linesAfter run (before ++ (pieces.map .text ++ after)) =
      linesAfter run (before ++ .text pieces.flatten :: after) := by
    induction before with
    | nil =>
      intro run
      rw [List.nil_append, List.nil_append, linesAfter_texts, linesAfter]
    | cons s before ih =>
      intro run
      cases s with
      | text t => exact ih (run ++ t)
      | block t => simp only [List.cons_append, linesAfter, ih]
      | flush => simp only [List.cons_append, linesAfter, ih]
  rw [List.append_assoc]
  exact h []

end OutputStep

namespace Unlimited

/-- Lines are only added, step by step. -/
theorem lines_prefix_run (o : Unlimited) (steps : List OutputStep) :
    o.lines <+: (o.run steps).lines := by
  induction steps generalizing o with
  | nil => exact List.prefix_refl _
  | cons s steps ih => exact (o.lines_prefix_step s).trans (ih (o.step s))

/-- The lines at some moment are among the first of all lines. -/
theorem lines_prefix_allLines {before steps : List OutputStep} (h : before <+: steps ++ [.flush]) :
    (Unlimited.run {} before).lines <+: OutputStep.allLines steps := by
  obtain ⟨after, hafter⟩ := h
  rw [← lines_run_flush, ← hafter, run_append]
  exact lines_prefix_run _ after

end Unlimited

namespace Session

open KernelJob.Action

variable {x : Execution} {w : World} {limit : Int} {before : List Text}
  {E : Failure → World → Prop}

/-- Collecting one step of output: the lines that are kept of it are given out. -/
theorem collect_keeps (hs : x.sink.NeverFails) (o : Unlimited) (fault : Option CodeFault)
    (step : OutputStep) (h : w.lines = before ++ (o.limitedTo limit).lines) :
    (collect x step ⟨o.limitedTo limit, fault⟩).Ensures w
      (fun c w' => c = ⟨(o.step step).limitedTo limit, fault⟩ ∧
        w'.lines = before ++ c.collector.lines) E := by
  have hkept := Unlimited.since_limitedTo limit (o.lines_prefix_step step)
  unfold collect
  rw [Unlimited.step_limitedTo]
  refine Ensures.bind (ensures_emitAll_lines (P := fun ls v => v.lines = before ++ ls) ?_ ?_ h _) ?_
  · intro ls v line hv
    rw [World.lines_emitted, hv, List.append_assoc]
  · intro _ _ said line e _ he
    exact absurd he (hs.ne_some said line e)
  · intro _ w' hw'
    refine ⟨rfl, ?_⟩
    rw [hw', hkept]

/-- **Steps that were collected** leave a collector without a limit, cut to its limit, and its lines
have been given out. -/
theorem collectAll_keeps (hs : x.sink.NeverFails) (o : Unlimited) (fault : Option CodeFault)
    (steps : List OutputStep) (h : w.lines = before ++ (o.limitedTo limit).lines) :
    (collectAll x steps ⟨o.limitedTo limit, fault⟩).Ensures w
      (fun c w' => c = ⟨(o.run steps).limitedTo limit, fault⟩ ∧
        w'.lines = before ++ c.collector.lines) E := by
  induction steps generalizing o w with
  | nil => exact ⟨rfl, h⟩
  | cons step steps ih =>
    rw [collectAll]
    refine (collect_keeps hs o fault step h).bind fun c w' hc => ?_
    obtain ⟨rfl, hlines⟩ := hc
    exact ih (o.step step) hlines

/-- **What is kept of some output in the end** under the limit `m`: the first of all its lines, and
whether there were more. The receiver has been given just these. -/
structure KeptInAll (m : Nat) (steps : List OutputStep) (w : World) (c : Captured) (w' : World) :
    Prop where
  lines : c.collector.lines = (OutputStep.allLines steps).take m
  truncated : c.collector.truncated = true ↔ m < (OutputStep.allLines steps).length
  shown : World.linesSince w w' = c.collector.lines

/-- **What is kept of some output meanwhile**: no more than `m` lines, the first of all of them. The
receiver has been given just these, and more output only adds to them. -/
structure KeptSoFar (x : Execution) (m : Nat) (steps : List OutputStep) (w : World) (c : Captured)
    (w' : World) : Prop where
  length : c.collector.lines.length ≤ m
  lines : c.collector.lines <+: (OutputStep.allLines steps).take m
  shown : World.linesSince w w' = c.collector.lines
  grows : ∀ more, (collectAll x more c).Ensures w'
    (fun d _ => c.collector.lines <+: d.collector.lines) (fun _ _ => False)

/-- Output that was collected from the beginning. -/
theorem collectAll_ensures (hs : x.sink.NeverFails) (m : Nat) (steps : List OutputStep) :
    (collectAll x steps { collector := { limit := m } }).Ensures w
      (fun c w' => c = ⟨(Unlimited.run {} steps).limitedTo m, none⟩ ∧
        w'.lines = w.lines ++ c.collector.lines) E := by
  have hstart : w.lines = w.lines ++ (Unlimited.limitedTo m {}).lines := by
    simp [Unlimited.limitedTo]
  rw [← Unlimited.limitedTo_start]
  exact collectAll_keeps hs {} none steps hstart

/-- After a flush everything is kept that the limit lets through. -/
theorem collectAll_flush (hs : x.sink.NeverFails) (m : Nat) (steps : List OutputStep) :
    (collectAll x (steps ++ [.flush]) { collector := { limit := m } }).Ensures w
      (KeptInAll m steps w) E := by
  refine (collectAll_ensures (E := fun _ _ => False) hs m _).mono ?_ fun _ _ he => he.elim
  rintro c w' ⟨rfl, hlines⟩
  constructor
  case lines => simp [Unlimited.limitedTo, Unlimited.lines_run_flush]
  case truncated => simp [Unlimited.limitedTo, Unlimited.lines_run_flush]
  case shown => exact World.linesSince_eq hlines

/-- Meanwhile a part of it is kept. -/
theorem collectAll_before (hs : x.sink.NeverFails) (m : Nat) {steps before : List OutputStep}
    (h : before <+: steps ++ [.flush]) :
    (collectAll x before { collector := { limit := m } }).Ensures w
      (KeptSoFar x m steps w) E := by
  refine (collectAll_ensures (E := fun _ _ => False) hs m before).mono ?_ fun _ _ he => he.elim
  rintro c w' ⟨rfl, hlines⟩
  constructor
  case length => exact List.length_take_le m _
  case lines => exact (Unlimited.lines_prefix_allLines h).take m
  case shown => exact World.linesSince_eq hlines
  case grows =>
    intro more
    refine (collectAll_keeps hs _ none more hlines).mono ?_ fun _ _ he => he
    rintro d v ⟨rfl, -⟩
    exact (Unlimited.lines_prefix_run _ more).take m

/-- **A collector keeps the beginning of all lines of its output.** In the end these are the first
`m` lines, and at every moment before that a part of them; the receiver is given just what is kept.
How streamed text is cut into pieces never matters. -/
theorem collect_refines (x : Execution) (hs : x.sink.NeverFails) (m : Nat)
    (steps : List OutputStep) (w : World) :
    (collectAll x (steps ++ [.flush]) { collector := { limit := m } }).Ensures w
      (KeptInAll m steps w) (fun _ _ => False) ∧
    (∀ before, before <+: steps ++ [.flush] →
      (collectAll x before { collector := { limit := m } }).Ensures w
        (KeptSoFar x m steps w) (fun _ _ => False)) ∧
    ∀ (before : List OutputStep) (pieces : List Text) (after : List OutputStep),
      steps = before ++ .text pieces.flatten :: after →
      (collectAll x (before ++ pieces.map .text ++ after ++ [.flush])
        { collector := { limit := m } }).Ensures w (KeptInAll m steps w) (fun _ _ => False) := by
  refine ⟨collectAll_flush hs m steps, fun before h => collectAll_before hs m h, ?_⟩
  rintro before pieces after rfl
  have hlines := OutputStep.allLines_texts before pieces after
  refine (collectAll_flush (E := fun _ _ => False) hs m _).mono ?_ fun _ _ he => he
  rintro c w' ⟨hkept, htruncated, hshown⟩
  rw [hlines] at hkept htruncated
  exact ⟨hkept, htruncated, hshown⟩

/-- A unit whose output goes to a receiver that only takes note. -/
def noting : Execution := ⟨{}, .ignoring, 0, "msg-1", 0.0, none⟩

/-- A connection that nothing has been said to. -/
def quiet : World where
  handle := { config := { kernel := "python3", workspace := .ofText "ws" }, state := .connected }

/-- Output with a line that a block interrupts, and with one that is left open. -/
def interrupted : List OutputStep := [.text "a", .block "b\nc", .text "d"]

/-- It has four lines, and a limit of two lets two of them through. -/
theorem collect_refines_interrupted :
    (collectAll noting (interrupted ++ [.flush]) { collector := { limit := (2 : Nat) } }).Ensures
      quiet (KeptInAll 2 interrupted quiet) (fun _ _ => False) ∧
    (OutputStep.allLines interrupted).take 2 = ([("a" : Text), "b"] : List Text) ∧
    2 < (OutputStep.allLines interrupted).length := by
  have hnoting : noting.sink.NeverFails := fun _ _ => rfl
  exact ⟨(collect_refines noting hnoting 2 interrupted quiet).1, rfl, by decide⟩

end Session

end KernelJob
