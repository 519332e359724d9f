import KernelJob.Proofs.Output.Collected
import KernelJob.Proofs.Session.Capture
import KernelJob.Proofs.Text.Colours

/-! # The colours of a traceback

The lines of a traceback are collected without their colours. What an error contributes to the
output of a unit is then what its plain lines contribute, so it does not matter how they are
coloured: only the error that is noted keeps the lines as they were sent.

* **`Session.SameOutput`** — two ways to take a message into account that bring the same output.
* **`Session.handleMessage_error`** — what is collected of an error.
* **`Session.colours_stripped`** — colours are taken out of a text, and they make no difference to
  the output of an error. -/

namespace KernelJob

open Text (Colouring)

/-- A message with the given lines for its traceback. -/
def Message.withTraceback (m : Message) (lines : List Text) : Message :=
  { m with content := m.content.set "traceback" (.list (lines.map .text)) }

namespace Session

open KernelJob.Action

variable {x : Execution} {c : Captured} {w : World} {m : Message} {v v' : Json}

/-- What has been captured when a message was taken into account. -/
def Progressed.captured : Progressed → Captured
  | .more c => c
  | .idle c => c

/-- **Two ways to take a message into account that bring the same output**: both fail alike or the
same has been collected, and the world after them is the same. -/
def SameOutput (r r' : Except Failure Progressed × World) : Prop :=
  r.1.map (fun p => p.captured.collector) = r'.1.map (fun p => p.captured.collector) ∧ r.2 = r'.2

/-! ## What is collected of an error -/

/-- What is captured but for the error that is noted. -/
def Captured.withFault (f : Option CodeFault) (c : Captured) : Captured := { c with fault := f }

/-- Output is collected without a look at the error that was noted. -/
theorem collectAll_withFault (steps : List OutputStep) (f : Option CodeFault) (c : Captured) :
    collectAll x steps (c.withFault f) = Captured.withFault f <$> collectAll x steps c := by
  induction steps generalizing c with
  | nil => exact (map_pure _ _).symm
  | cons step steps ih =>
    have hstep : collect x step (c.withFault f) = Captured.withFault f <$> collect x step c := by
      unfold collect
      rw [map_bind]
      exact bind_congr fun _ => (map_pure _ _).symm
    rw [collectAll, collectAll, hstep, bind_map_left, map_bind]
    exact bind_congr fun d => ih d

/-- **Of an error the lines of its traceback are collected**, each as a block without its
colours. -/
theorem handleMessage_error {lines : List Text} (herror : m.type = "error")
    (hv : Message.ofJson? v = some (m.withTraceback lines)) (c : Captured) :
    handleMessage x v c =
      if m.isAbout x.request then
        (Progressed.more ∘ Captured.withFault (m.withTraceback lines).fault?) <$>
          collectAll x (lines.map fun t => .block t.stripColours) c
      else return .more c := by
  have hitems : ((m.withTraceback lines).content.get? "traceback").getD (.list []) =
      .list (lines.map .text) := by
    rw [Message.withTraceback, Fields.get?_set, if_pos rfl, Option.getD_some]
  have htype : (m.withTraceback lines).type = "error" := herror
  obtain ⟨fault, hfault⟩ : ∃ fault, (m.withTraceback lines).fault? = some fault := by
    rw [Message.fault?, if_pos htype]
    exact ⟨_, rfl⟩
  have hnoted : ({ c with fault := some fault } : Captured) = c.withFault (some fault) := rfl
  rw [handleMessage_of_ofJson? hv, handleOwn_error hfault hitems,
    collectTraceback_of_texts? (Json.texts?_eq_some_iff.mpr rfl), hfault, hnoted,
    collectAll_withFault, ← comp_map]
  rfl

/-- **Errors whose lines are the same without colours** bring the same output. -/
theorem sameOutput_of_error {lines lines' : List Text} (herror : m.type = "error")
    (hv : Message.ofJson? v = some (m.withTraceback lines))
    (hv' : Message.ofJson? v' = some (m.withTraceback lines'))
    (hlines : lines.map Text.stripColours = lines'.map Text.stripColours) :
    SameOutput (handleMessage x v c w) (handleMessage x v' c w) := by
  have hsteps : (lines.map fun t => OutputStep.block t.stripColours) =
      lines'.map fun t => OutputStep.block t.stripColours := by
    have hblocks := congrArg (List.map OutputStep.block) hlines
    rwa [List.map_map, List.map_map] at hblocks
  rw [handleMessage_error herror hv, handleMessage_error herror hv', hsteps]
  by_cases habout : m.isAbout x.request = true
  · rw [if_pos habout, if_pos habout, map_apply, map_apply]
    refine ⟨?_, rfl⟩
    -- only the error that is noted differs, and the collector does not hold it
    cases (collectAll x (lines'.map fun t => .block t.stripColours) c w).1 with
    | error e => rfl
    | ok d => rfl
  · rw [if_neg habout, if_neg habout]
    exact ⟨rfl, rfl⟩

/-! ## Colours -/

/-- **Colours are stripped.** A text that was coloured is plain text again without its colours,
wherever they stand and whatever follows them. So two errors whose tracebacks have the same lines,
but in different colours, bring the same output. -/
theorem colours_stripped (x : Execution) (c : Captured) (w : World) :
    (∀ l : Colouring, Text.stripColours l.written = l.shown) ∧
    ∀ (m : Message) (v v' : Json) (ls ls' : List Colouring), m.type = "error" →
      Message.ofJson? v = some (m.withTraceback (ls.map Colouring.written)) →
      Message.ofJson? v' = some (m.withTraceback (ls'.map Colouring.written)) →
      ls.map Colouring.shown = ls'.map Colouring.shown →
      SameOutput (handleMessage x v c w) (handleMessage x v' c w) := by
  refine ⟨Text.stripColours_written, fun m v v' ls ls' herror hv hv' hshown => ?_⟩
  have hstripped (ls : List Colouring) :
      (ls.map Colouring.written).map Text.stripColours = ls.map Colouring.shown := by
    rw [List.map_map]
    exact List.map_congr_left fun l _ => Text.stripColours_written l
  exact sameOutput_of_error herror hv hv' (by rw [hstripped, hstripped, hshown])

/-- The line `9;m[K`, which could go on with the sequence before it. -/
def plainLine : Colouring := [.plain "9;m[K" (by decide)]

/-- The same line in bold red. -/
def redLine : Colouring := [
  .sequence "1;31" (CodePoint.ofChar 'm') (by decide) rfl,
  .plain "9;m" (by decide),
  .sequence "" (CodePoint.ofChar 'K') (by decide) rfl,
  .plain "[K" (by decide)]

/-- An error with these lines. -/
def sentError (lines : List Text) : Json :=
  .object [("header", .object [("msg_type", .text "error")]),
    ("parent_header", .object [("msg_id", .text "msg-1")]),
    ("content", .object [("ename", .text "ValueError"), ("traceback", .list (lines.map .text))])]

/-- The sequences go, and the line that looks like the rest of one stays: in both colours it is
collected. -/
theorem colours_stripped_redLine :
    Text.stripColours "\x1b[1;31m9;m\x1b[K[K" = "9;m[K" ∧
    SameOutput
      (handleMessage noting (sentError ["\x1b[1;31m9;m\x1b[K[K"])
        { collector := { limit := 10 } } quiet)
      (handleMessage noting (sentError ["9;m[K"]) { collector := { limit := 10 } } quiet) := by
  obtain ⟨hstrip, hsame⟩ := colours_stripped noting { collector := { limit := 10 } } quiet
  exact ⟨hstrip redLine, hsame ⟨"error", [("msg_id", .text "msg-1")],
    [("ename", .text "ValueError")]⟩ _ _ [redLine] [plainLine] rfl rfl rfl rfl⟩

end Session

end KernelJob
