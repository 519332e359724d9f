import KernelJob.Json.Printer
import KernelJob.Text.Lines

/-! # Results and reports

The result of a unit, and the report of a run, which is a success only if nothing failed and every
unit that has a result succeeded.
-/

namespace KernelJob

/-- Whether a unit ran without an error. -/
inductive UnitOutcome
  | success
  | fault
deriving DecidableEq, Repr

/-- The name of an outcome. -/
def UnitOutcome.name : UnitOutcome → Text
  | .success => "success"
  | .fault => "fault"

/-- The result of a unit. -/
structure UnitResult where
  sequenceNumber : Int
  /-- The lines of output that were kept. -/
  output : Text := []
  /-- Whether there was more output. -/
  truncated : Bool := false
  /-- Whole milliseconds. -/
  elapsed : Int := 0
  outcome : UnitOutcome := .success
  error : Text := []
deriving DecidableEq, Repr

namespace UnitResult

/-- The lines of the output. -/
def lines (r : UnitResult) : List Text := Text.lines r.output

/-- Whether the unit ran without an error. -/
def succeeded (r : UnitResult) : Bool := r.outcome == .success

/-- A result as a JSON value. -/
def toJson (r : UnitResult) : Json :=
  .object [("sequence_number", .int r.sequenceNumber), ("output_text", .text r.output),
    ("truncated", .bool r.truncated), ("elapsed_ms", .int r.elapsed),
    ("outcome", .text r.outcome.name), ("error", .text r.error)]

end UnitResult

/-- The report of a run. -/
structure Report where
  succeeded : Bool
  results : List UnitResult := []
  diagnostics : List Text := []
  kernel : Text := []
  serverName : Text := []
  task : Text := []
deriving DecidableEq, Repr

namespace Report

/-- The name of the model in complaints. -/
def model : Text := "ExecutionReport"

/-- The name of the overall outcome. -/
def outcomeName (r : Report) : Text := if r.succeeded then "success" else "failure"

/-- The verdict on a run. -/
def verdict (r : Report) : Text := if r.succeeded then "SUCCESS" else "FAILURE"

/-- The output of all units that have any. -/
def output (r : Report) : Text :=
  Text.join "\n" ((r.results.map UnitResult.output).filter (· != []))

/-- A report as a JSON value. -/
def toJson (r : Report) : Json :=
  .object [("overall_outcome", .text r.outcomeName),
    ("per_unit_results", .list (r.results.map UnitResult.toJson)),
    ("diagnostic_messages", .list (r.diagnostics.map Json.text)),
    ("kernel", .text r.kernel), ("server_name", .text r.serverName), ("task", .text r.task)]

/-- The text of a report file. -/
def fileText (r : Report) : Except EncodeFault Text := r.toJson.written

end Report

/-- What a run has gathered so far. -/
structure Progress where
  kernel : Text := []
  serverName : Text := []
  task : Text := []
  results : List UnitResult := []
  diagnostics : List Text := []
deriving DecidableEq, Repr

namespace Progress

/-- The progress with one more result. -/
def addResult (p : Progress) (r : UnitResult) : Progress := { p with results := p.results ++ [r] }

/-- The progress with one more diagnostic. -/
def addDiagnostic (p : Progress) (message : Text) : Progress :=
  { p with diagnostics := p.diagnostics ++ [message] }

/-- The report at the end of a run; `failed` says whether the run itself failed. -/
def finish (p : Progress) (failed : Bool) : Report :=
  ⟨!failed && p.results.all UnitResult.succeeded, p.results, p.diagnostics, p.kernel, p.serverName,
    p.task⟩

end Progress

end KernelJob
