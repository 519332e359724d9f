import KernelJob.Run.Report
import KernelJob.Settings.Checked

/-! # Reports from values

Results and the beginnings of a report, read from JSON values.
-/

namespace KernelJob

/-- An outcome from its name. -/
def UnitOutcome.read : Json → Except Problem UnitOutcome
  | .text t =>
    match Json.spelling t with
    | .error p => .error p
    | .ok t =>
      if t = UnitOutcome.success.name then .ok .success
      else if t = UnitOutcome.fault.name then .ok .fault
      else .error .notOutcome
  | _ => .error .notOutcome

namespace UnitResult

/-- The result that fields describe. -/
def ofFields (fields : Fields) : Checked UnitResult :=
  (((Checked.required fields "sequence_number" fun v => .ofReading v.readInt).both
    (Checked.fieldOr fields "output_text" [] fun v => .ofReading v.readText)).both
  (((Checked.fieldOr fields "truncated" false fun v => .ofReading v.readBool).both
    (Checked.fieldOr fields "elapsed_ms" 0 fun v => .ofReading v.readInt)).both
  ((Checked.fieldOr fields "outcome" .success fun v => .ofReading (UnitOutcome.read v)).both
    (Checked.fieldOr fields "error" [] fun v => .ofReading v.readText)))).map
  fun ((number, output), (truncated, elapsed), outcome, error) =>
    ⟨number, output, truncated, elapsed, outcome, error⟩

/-- The name of the model in complaints. -/
def model : Text := "ExecutionResult"

/-- The result that a value describes. -/
def read (v : Json) : Checked UnitResult :=
  match v.readFields model with
  | .ok fields => ofFields fields
  | .error p => .error [⟨[], p⟩]

end UnitResult

/-- The progress of a run that is written down as a whole, and whether it has been finished. -/
structure Draft where
  progress : Progress := {}
  finished : Bool := false
deriving DecidableEq, Repr

namespace Draft

/-- The draft that fields describe. -/
def ofFields (fields : Fields) : Checked Draft :=
  (((Checked.fieldOr fields "kernel" [] fun v => .ofReading v.readText).both
    (Checked.fieldOr fields "server_name" [] fun v => .ofReading v.readText)).both
  (((Checked.fieldOr fields "task" [] fun v => .ofReading v.readText).both
    (Checked.fieldOr fields "results" [] (Checked.list UnitResult.read))).both
  ((Checked.fieldOr fields "diagnostics" []
      (Checked.list fun v => Checked.ofReading v.readText)).both
    (Checked.fieldOr fields "finalized" false fun v => .ofReading v.readBool)))).map
  fun ((kernel, server), (task, results), diagnostics, finished) =>
    ⟨⟨kernel, server, task, results, diagnostics⟩, finished⟩

/-- The name of the model in complaints. -/
def model : Text := "ReportBuilder"

/-- What is said when a draft is finished twice. -/
def finishedMessage : Text := "Report has already been finalized"

/-- The report of a draft, once. -/
def finish? (d : Draft) (failed : Bool) : Option (Report × Draft) :=
  if d.finished then none else some (d.progress.finish failed, { d with finished := true })

end Draft

end KernelJob
