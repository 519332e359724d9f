import KernelJob.Text.Lines

/-! # Collecting output

A collector cuts the output of a code unit into lines and keeps the first of them, up to a limit.
Streamed text may stop in the middle of a line and is cut at newlines only; a block is complete in
itself and is cut at every line boundary. `OutputStep.allLines` is what a collector without a limit
would keep.
-/

namespace KernelJob

/-- The newline. -/
def newline : CodePoint := CodePoint.ofNat 10

/-- Output as it comes in. -/
inductive OutputStep
  /-- Streamed text. -/
  | text (t : Text)
  /-- A block of text. -/
  | block (t : Text)
  /-- The end of a line that was left open. -/
  | flush
deriving DecidableEq, Repr

/-- The lines kept so far and what is left of the last stream text. -/
structure Collector where
  /-- The most lines that are kept. -/
  limit : Int
  /-- The lines kept. -/
  lines : List Text := []
  /-- Whether a line was dropped. -/
  truncated : Bool := false
  /-- A line that has not ended yet. -/
  pending : Text := []
deriving DecidableEq, Repr

namespace Collector

/-- The number of lines that still can be kept. -/
def room (c : Collector) : Nat := (c.limit - c.lines.length).toNat

/-- Complete lines are kept as long as there is room. -/
def addLines (c : Collector) (ls : List Text) : Collector :=
  { c with lines := c.lines ++ ls.take c.room, truncated := c.truncated || c.room < ls.length }

/-- Streamed text ends the lines that its newlines end; the rest is left pending. -/
def addText (c : Collector) (t : Text) : Collector :=
  let pieces := Text.splitOn newline (c.pending ++ t)
  { c.addLines pieces.dropLast with pending := pieces.getLast?.getD [] }

/-- A line left open is ended, unless it is empty. -/
def flush (c : Collector) : Collector :=
  if c.pending = [] then c else { c.addLines [c.pending] with pending := [] }

/-- A block ends a line left open before it. -/
def addBlock (c : Collector) (t : Text) : Collector := c.flush.addLines (Text.lines t)

/-- One step of output. -/
def step (c : Collector) : OutputStep → Collector
  | .text t => c.addText t
  | .block t => c.addBlock t
  | .flush => c.flush

/-- The lines kept since an earlier moment. -/
def since (c earlier : Collector) : List Text := c.lines.drop earlier.lines.length

/-- The lines kept, as one text. -/
def text (c : Collector) : Text := Text.join [newline] c.lines

@[simp] theorem lines_addLines (c : Collector) (ls : List Text) :
    (c.addLines ls).lines = c.lines ++ ls.take c.room := rfl

@[simp] theorem limit_addLines (c : Collector) (ls : List Text) :
    (c.addLines ls).limit = c.limit := rfl

@[simp] theorem pending_addLines (c : Collector) (ls : List Text) :
    (c.addLines ls).pending = c.pending := rfl

end Collector

namespace OutputStep

/-- The lines of a run of streamed text: an empty last piece is no line. -/
def runLines (t : Text) : List Text :=
  let pieces := Text.splitOn newline t
  if pieces.getLast?.getD [] = [] then pieces.dropLast else pieces

/-- The lines of output that follows a run of streamed text. -/
def linesAfter (run : Text) : List OutputStep → List Text
  | [] => runLines run
  | .text t :: steps => linesAfter (run ++ t) steps
  | .block t :: steps => runLines run ++ Text.lines t ++ linesAfter [] steps
  | .flush :: steps => runLines run ++ linesAfter [] steps

/-- All lines of some output. -/
def allLines (steps : List OutputStep) : List Text := linesAfter [] steps

end OutputStep

end KernelJob
