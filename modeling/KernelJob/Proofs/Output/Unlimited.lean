import KernelJob.Output.Collector

/-! # Output without a limit

A collector with a limit keeps the first lines of what a collector without one would keep, and the
limit decides about nothing else.

* **`Unlimited`** — the state of a collector without a limit: the complete lines and the open one.
* **`Unlimited.step_limitedTo`** — the steps of a collector are those of one without a limit, cut
  to its limit.
* **`Unlimited.closedLines_run`** — after some steps the lines of a collector without a limit are
  those that `OutputStep.allLines` gives, however streamed text was cut into pieces. -/

namespace KernelJob

namespace Text

/-- A cut text goes on being cut from its last piece on. -/
theorem splitOn_append (sep : CodePoint) (s t : Text) :
    splitOn sep (s ++ t) =
      (splitOn sep s).dropLast ++ splitOn sep ((splitOn sep s).getLast?.getD [] ++ t) := by
  induction s with
  | nil => rfl
  | cons c s ih =>
    have hne := splitOn_ne_nil sep s
    by_cases hc : c = sep
    · -- the separator ends a piece of its own
      have hcons : ∀ u, splitOn sep (c :: u) = [] :: splitOn sep u := fun u => by
        rw [splitOn, if_pos hc]
      rw [List.cons_append, hcons, hcons, ih]
      obtain ⟨piece, pieces, hs⟩ := List.exists_cons_of_ne_nil hne
      rw [hs, List.dropLast_cons_cons, List.getLast?_cons_cons, List.cons_append]
    · -- any other code point begins the first piece
      have hcons : ∀ u piece pieces, splitOn sep u = piece :: pieces →
          splitOn sep (c :: u) = (c :: piece) :: pieces := fun u piece pieces hu => by
        rw [splitOn, if_neg hc, hu]
      obtain ⟨piece, pieces, hs⟩ := List.exists_cons_of_ne_nil hne
      rw [hs] at ih
      rw [List.cons_append, hcons s piece pieces hs]
      rcases pieces with _ | ⟨next, pieces⟩
      · obtain ⟨first, rest, hrest⟩ := List.exists_cons_of_ne_nil (splitOn_ne_nil sep (piece ++ t))
        have hst : splitOn sep (s ++ t) = first :: rest := by
          rw [ih]
          exact hrest
        rw [hcons _ first rest hst]
        exact (hcons _ first rest hrest).symm
      · rw [List.dropLast_cons_cons, List.getLast?_cons_cons] at ih
        rw [List.dropLast_cons_cons, List.getLast?_cons_cons, hcons _ piece _ ih]
        rfl

end Text

/-- **The state of a collector without a limit.** -/
structure Unlimited where
  /-- The lines that are complete. -/
  lines : List Text := []
  /-- A line that has not ended yet. -/
  pending : Text := []

namespace Unlimited

/-- A line that was left open, unless it is empty. -/
def openLine (pending : Text) : List Text := if pending = [] then [] else [pending]

/-- One step of output. -/
def step (o : Unlimited) : OutputStep → Unlimited
  | .text t =>
    let pieces := Text.splitOn newline (o.pending ++ t)
    ⟨o.lines ++ pieces.dropLast, pieces.getLast?.getD []⟩
  | .block t => ⟨o.lines ++ openLine o.pending ++ Text.lines t, []⟩
  | .flush => ⟨o.lines ++ openLine o.pending, []⟩

/-- Steps of output one after the other. -/
def run (o : Unlimited) (steps : List OutputStep) : Unlimited := steps.foldl step o

/-- All lines, a line that was left open among them. -/
def closedLines (o : Unlimited) : List Text := o.lines ++ openLine o.pending

@[simp] theorem run_nil (o : Unlimited) : o.run [] = o := rfl

@[simp] theorem run_cons (o : Unlimited) (s : OutputStep) (steps : List OutputStep) :
    o.run (s :: steps) = (o.step s).run steps := rfl

theorem run_append (o : Unlimited) (steps more : List OutputStep) :
    o.run (steps ++ more) = (o.run steps).run more := List.foldl_append

/-- A flush ends the open line. -/
@[simp] theorem lines_step_flush (o : Unlimited) : (o.step .flush).lines = o.closedLines := rfl

/-- Lines are only added. -/
theorem lines_prefix_step (o : Unlimited) (s : OutputStep) : o.lines <+: (o.step s).lines := by
  cases s with
  | text t => exact List.prefix_append _ _
  | block t => exact (List.prefix_append _ _).trans (List.prefix_append _ _)
  | flush => exact List.prefix_append _ _

/-! ## With a limit -/

/-- **A collector with a limit** that has taken the steps of one without: it has kept the first
lines. -/
def limitedTo (limit : Int) (o : Unlimited) : Collector where
  limit := limit
  lines := o.lines.take limit.toNat
  truncated := limit.toNat < o.lines.length
  pending := o.pending

/-- A collector begins as one without a limit does. -/
theorem limitedTo_start (limit : Int) : limitedTo limit {} = { limit := limit } := by
  simp [limitedTo]

/-- The room that is left depends on the lines so far. -/
theorem room_limitedTo (limit : Int) (o : Unlimited) :
    (o.limitedTo limit).room = limit.toNat - o.lines.length := by
  have hlength : (o.limitedTo limit).lines.length = min limit.toNat o.lines.length :=
    List.length_take
  rw [Collector.room, hlength]
  show (limit - _).toNat = _
  omega

/-- Complete lines are kept up to the limit. -/
theorem addLines_limitedTo (limit : Int) (o : Unlimited) (ls : List Text) :
    (o.limitedTo limit).addLines ls = limitedTo limit { o with lines := o.lines ++ ls } := by
  have htruncated : (decide (limit.toNat < o.lines.length) ||
      decide (limit.toNat - o.lines.length < ls.length)) =
      decide (limit.toNat < (o.lines ++ ls).length) := by
    rw [List.length_append, ← Bool.decide_or, decide_eq_decide]
    omega
  rw [Collector.addLines, room_limitedTo]
  simp only [limitedTo, List.take_append, htruncated]

/-- An open line is ended alike with a limit and without. -/
theorem flush_limitedTo (limit : Int) (o : Unlimited) :
    (o.limitedTo limit).flush = (o.step .flush).limitedTo limit := by
  have hpending : (o.limitedTo limit).pending = o.pending := rfl
  rw [Collector.flush, hpending, addLines_limitedTo]
  unfold step openLine
  split
  · rename_i h
    rw [List.append_nil, ← h]
  · rfl

/-- **The steps of a collector are those of one without a limit**, cut to its limit. -/
theorem step_limitedTo (limit : Int) (o : Unlimited) (s : OutputStep) :
    (o.limitedTo limit).step s = (o.step s).limitedTo limit := by
  cases s with
  | text t =>
    rw [Collector.step, Collector.addText, addLines_limitedTo]
    rfl
  | block t =>
    rw [Collector.step, Collector.addBlock, flush_limitedTo, addLines_limitedTo]
    rfl
  | flush => exact flush_limitedTo limit o

/-- The lines that a limit lets through of those that were added. -/
theorem since_limitedTo_of_append (limit : Int) {o o' : Unlimited} {more : List Text}
    (h : o'.lines = o.lines ++ more) :
    (o'.limitedTo limit).since (o.limitedTo limit) = more.take (limit.toNat - o.lines.length) := by
  have htake : (o'.limitedTo limit).lines =
      (o.limitedTo limit).lines ++ more.take (limit.toNat - o.lines.length) := by
    rw [limitedTo, limitedTo, h, List.take_append]
  rw [Collector.since, htake, List.drop_left]

/-- The lines that a limit lets through since an earlier moment. -/
theorem since_limitedTo (limit : Int) {o o' : Unlimited} (h : o.lines <+: o'.lines) :
    (o'.limitedTo limit).lines = (o.limitedTo limit).lines ++
      (o'.limitedTo limit).since (o.limitedTo limit) := by
  obtain ⟨more, hmore⟩ := h
  rw [since_limitedTo_of_append limit hmore.symm, limitedTo, limitedTo, ← hmore, List.take_append]

/-! ## All lines -/

/-- The state after the lines `base` and a run of streamed text: the run has been cut, and its last
piece is the open line. -/
def afterRun (base : List Text) (run : Text) : Unlimited where
  lines := base ++ (Text.splitOn newline run).dropLast
  pending := (Text.splitOn newline run).getLast?.getD []

@[simp] theorem afterRun_nil (base : List Text) : afterRun base [] = ⟨base, []⟩ := by
  simp [afterRun, Text.splitOn]

/-- More streamed text makes the run longer, wherever it was cut. -/
theorem step_text_afterRun (base : List Text) (run t : Text) :
    (afterRun base run).step (.text t) = afterRun base (run ++ t) := by
  have hne := Text.splitOn_ne_nil newline ((Text.splitOn newline run).getLast?.getD [] ++ t)
  have hlast : ∀ ps : List Text, (ps ++ Text.splitOn newline
      ((Text.splitOn newline run).getLast?.getD [] ++ t)).getLast? =
      (Text.splitOn newline ((Text.splitOn newline run).getLast?.getD [] ++ t)).getLast? := by
    intro ps
    rw [List.getLast?_append, List.getLast?_eq_some_getLast hne, Option.some_or]
  rw [afterRun, afterRun, Text.splitOn_append, List.dropLast_append_of_ne_nil hne, hlast, step,
    List.append_assoc]

/-- Ending the open line gives the lines of the run. -/
theorem closedLines_afterRun (base : List Text) (run : Text) :
    (afterRun base run).closedLines = base ++ OutputStep.runLines run := by
  have hne := Text.splitOn_ne_nil newline run
  have hpieces : (Text.splitOn newline run).dropLast ++
      [(Text.splitOn newline run).getLast?.getD []] = Text.splitOn newline run := by
    rw [List.getLast?_eq_some_getLast hne, Option.getD_some]
    exact List.dropLast_concat_getLast hne
  rw [closedLines, afterRun, openLine, OutputStep.runLines, List.append_assoc]
  dsimp only
  split
  · rw [List.append_nil]
  · rw [hpieces]

/-- The lines after a run of streamed text and some steps. -/
theorem closedLines_run_afterRun (base : List Text) (run : Text) (steps : List OutputStep) :
    ((afterRun base run).run steps).closedLines = base ++ OutputStep.linesAfter run steps := by
  -- a step of another kind than text ends the run, and the next one begins empty
  induction steps generalizing base run with
  | nil => exact closedLines_afterRun base run
  | cons s steps ih =>
    rw [run_cons]
    cases s with
    | text t => rw [step_text_afterRun, ih, OutputStep.linesAfter]
    | block t =>
      have hstep : (afterRun base run).step (.block t) =
          afterRun (base ++ OutputStep.runLines run ++ Text.lines t) [] := by
        rw [afterRun_nil, ← closedLines_afterRun]
        rfl
      rw [hstep, ih, OutputStep.linesAfter]
      simp only [List.append_assoc]
    | flush =>
      have hstep : (afterRun base run).step .flush =
          afterRun (base ++ OutputStep.runLines run) [] := by
        rw [afterRun_nil, ← closedLines_afterRun]
        rfl
      rw [hstep, ih, OutputStep.linesAfter, List.append_assoc]

/-- **The lines of a collector without a limit** are all lines of the steps that it has taken. -/
theorem closedLines_run (steps : List OutputStep) :
    (Unlimited.run {} steps).closedLines = OutputStep.allLines steps := by
  have h := closedLines_run_afterRun [] [] steps
  rw [afterRun_nil, List.nil_append] at h
  exact h

/-- After a last flush these are the complete lines. -/
theorem lines_run_flush (steps : List OutputStep) :
    (Unlimited.run {} (steps ++ [.flush])).lines = OutputStep.allLines steps := by
  rw [run_append, run_cons, run_nil, lines_step_flush, closedLines_run]

end Unlimited

end KernelJob
