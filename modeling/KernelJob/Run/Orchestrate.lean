import KernelJob.Session.Connect
import KernelJob.Session.Execute

/-! # Runs

A run reads its source, connects to the kernel, executes the units one after the other and releases
the kernel on every way out. The first unit that fails ends the run. Whatever goes wrong becomes a
diagnostic, and the run ends with a report and a verdict.
-/

namespace KernelJob.Run

open KernelJob.Action

/-- What a run is given from outside. -/
structure Setting where
  kernel : Kernel
  sink : Sink

/-- What is said of a file source without a path. -/
def emptyPathMessage : Text := "The file path is empty"

/-- The name of the platform. -/
def platform : Text := "LINUX"

/-- Moves the run to another state. -/
def enter (state : RunState) : Action Unit := change fun w => { w with state := state }

/-- Puts a diagnostic into the report and gives it to the receiver. -/
def diagnose (s : Setting) (message : Text) : Action Unit := do
  record .warning .run message
  change fun w => { w with progress := w.progress.addDiagnostic message }
  emit s.sink message

/-- Gives diagnostics one after the other. -/
def diagnoseAll (s : Setting) : List Text → Action Unit
  | [] => ok ()
  | m :: ms => do
    diagnose s m
    diagnoseAll s ms

/-- Fails if the run is cancelled. -/
def checkCancelled (point : CancelPoint) : Action Unit := do
  let w ← world
  if w.cancelled then fail (.cancelled point) else ok ()

/-! ## Sources -/

/-- Says what the run is about. -/
def emitHeader (s : Setting) (config : RunConfig) : Action Unit :=
  emitAll s.sink
    ["Executed kernel : " ++ config.kernel.upper, "Language : " ++ config.displayName.upper,
      "Platform : " ++ platform]

/-- Logs which format an extension stands for. -/
def recordExtension (config : RunConfig) : Action Unit :=
  if config.format = none ∧ config.mode = .file then
    match SourceFormat.extension? (Path.ofText config.source).name with
    | some (c :: cs) =>
      record .debug .codeUnit ("Extension " ++ Text.quoted (c :: cs) ++ " resolved to format " ++
        config.effectiveFormat.name)
    | _ => ok ()
  else ok ()

/-- The bytes of the source. -/
def loadBytes (config : RunConfig) : Action (List UInt8) := do
  match config.mode with
  | .inline =>
    match Text.utf8 config.source with
    | .ok bytes => return bytes
    | .error fault => fail (.encoding fault)
  | .file =>
    record .info .run ("Reading " ++ config.effectiveFormat.name ++ " source from " ++
      config.sourcePath.text)
    let w ← world
    match w.files.read config.sourcePath with
    | .ok bytes => return bytes
    | .error fault => if fault.isOs then fail (.unreadable fault) else fail (.file fault)

/-- The number of units that are skipped. -/
def skippedCount (units : List CodeUnit) : Nat := units.countP (·.skip)

/-- Logs what a document holds. -/
def recordDocument : Document → Action Unit
  | .code _ => ok ()
  | .notebook nb =>
    record .debug .document ("Parsed notebook: " ++ Text.ofNat nb.units.length ++
      " code cells of " ++
      Text.ofNat nb.cells.length ++ " cells")
  | .note n =>
    record .debug .document ("Parsed Zeppelin note: " ++ Text.ofNat n.units.length ++
      " paragraphs, " ++ Text.ofNat (skippedCount n.units) ++ " skipped")

/-- The units of the source. -/
def loadUnits (s : Setting) (config : RunConfig) : Action (List CodeUnit) := do
  recordExtension config
  let bytes ← loadBytes config
  emit s.sink ("Type : " ++ config.effectiveFormat.name.upper)
  match Document.read config.effectiveFormat bytes with
  | .error fault => fail (.document fault)
  | .ok document =>
    recordDocument document
    record .info .run (config.task ++ ":Parsed " ++ Text.ofNat document.units.length ++
      " code units (" ++ Text.ofNat (skippedCount document.units) ++ " skipped)")
    return document.units

/-! ## Units -/

/-- The line that says that output of a unit was dropped. -/
def truncationNotice (unit limit : Int) : Text :=
  "[output of unit " ++ Text.ofInt unit ++ " truncated after " ++ Text.ofInt limit ++ " lines]"

/-- What is said of a unit whose code failed. -/
def faultMessage (config : RunConfig) (unit : Int) (e : Failure) : Text :=
  "Execution of unit " ++ Text.ofInt unit ++ " failed on kernel '" ++ config.kernel ++ "': " ++
    e.message

/-- The result that a failure of the code comes with. -/
def faultResult? : Failure → Option UnitResult
  | .code _ result => some result
  | .timeout _ result => some result
  | _ => none

/-- Puts a result into the report. -/
def addResult (r : UnitResult) : Action Unit :=
  change fun w => { w with progress := w.progress.addResult r }

/-- Executes one unit. Gives whether its code failed. -/
def executeUnit (s : Setting) (config : RunConfig) (unit : CodeUnit) : Action Bool := do
  emitAll s.sink (Text.lines unit.source)
  match ← attempt (Session.execute s.kernel s.sink config.task unit) with
  | .ok result =>
    addResult result
    if result.truncated then emit s.sink (truncationNotice unit.sequenceNumber config.maxResults)
    return false
  | .error e =>
    match faultResult? e with
    | some result =>
      addResult result
      diagnose s (faultMessage config unit.sequenceNumber e)
      return true
    | none => fail e

/-- Executes units one after the other until the code of one fails. Gives whether one failed. -/
def executeUnits (s : Setting) (config : RunConfig) : List CodeUnit → Action Bool
  | [] => return false
  | unit :: units => do
    checkCancelled (.beforeUnit unit.sequenceNumber)
    if unit.skip then
      record .debug .run (config.task ++ ":Skipping documentation unit " ++
        Text.ofInt unit.sequenceNumber)
      executeUnits s config units
    else
      if ← executeUnit s config unit then return true else executeUnits s config units

/-! ## The run -/

/-- The part of a run with a connected kernel. -/
def runConnected (s : Setting) (config : RunConfig) (units : List CodeUnit) : Action Bool := do
  checkCancelled .whileStarting
  enter .running
  emit s.sink "Output : "
  executeUnits s config units

/-- Releases the kernel at the end of a run. What goes wrong in that becomes diagnostics. -/
def finalize (s : Setting) : Action Unit := do
  enter .finalizing
  let messages ← Session.close s.kernel
  diagnoseAll s messages

/-- Does something and releases the kernel afterwards, also if it failed. -/
def closing (s : Setting) (x : Action Bool) : Action Bool := do
  let outcome ← attempt x
  finalize s
  ofExcept outcome

/-- The part of a run up to the connection to its kernel. Gives the units to execute, or nothing if
the run names no source. -/
def approach (s : Setting) (config : RunConfig) : Action (Option (List CodeUnit)) := do
  match config.check with
  | .error fault => fail (.config fault)
  | .ok _ =>
    if config.mode = .file ∧ config.source.isBlank then
      diagnose s emptyPathMessage
      return none
    else
      emitHeader s config
      let units ← loadUnits s config
      checkCancelled .beforeConnecting
      enter .connecting
      Session.connect s.kernel config
      return some units

/-- The steps of a run. Gives whether the run failed. -/
def steps (s : Setting) (config : RunConfig) : Action Bool := do
  match ← approach s config with
  | none => return true
  | some units => closing s (runConnected s config units)

/-- What is said of a failure that ended a run. -/
def diagnosis (config : RunConfig) (e : Failure) : Text :=
  match e with
  | .config fault => "Configuration error: " ++ fault.message
  | .document (.format fault) => "FormatError: " ++ fault.message
  | .document (.structural fault) => "StructureError: " ++ fault.message
  | .connect .. => e.message
  | .transport fault => "Connection to kernel '" ++ config.kernel ++ "' lost: " ++ fault.message
  | .cancelled point => "Run cancelled: " ++ point.message
  | .unreadable fault => "Cannot read source: " ++ fault.message
  | e =>
    if e.isOrdinary then "Internal error: " ++ e.name ++ ": " ++ e.message
    else if e.message = [] then "Run cancelled" else "Run cancelled: " ++ e.message

/-- Logs a failure that no rule covers. -/
def recordUnexpected (e : Failure) : Action Unit :=
  match e with
  | .config _ | .document (.format _) | .document (.structural _) | .connect .. | .transport _
  | .cancelled _ | .unreadable _ => ok ()
  | e => if e.isOrdinary then record .debug .run "Unexpected error during run" else ok ()

/-- The line that ends a run. -/
def verdictLine (config : RunConfig) (report : Report) : Text :=
  "Finished: " ++ report.verdict ++ " (kernel '" ++ config.kernel ++ "', server '" ++
    config.displayName ++ "')"

/-- A world in which a run begins: nothing is gathered yet. -/
def begun (config : RunConfig) (w : World) : World :=
  { w with
    state := .configured
    progress :=
      { kernel := config.kernel, serverName := config.serverName, task := config.task } }

/-- Takes the steps of a run. A failure becomes a diagnostic. Gives whether the run failed. -/
def settle (s : Setting) (config : RunConfig) : Action Bool := do
  match ← attempt (steps s config) with
  | .ok failed => ok failed
  | .error e =>
    recordUnexpected e
    diagnose s (diagnosis config e)
    ok true

/-- Executes a run and gives its report. -/
def run (s : Setting) (config : RunConfig) : Action Report := do
  change (begun config)
  let failed ← settle s config
  let w ← world
  let report := w.progress.finish failed
  enter .done
  emit s.sink (verdictLine config report)
  return report

end KernelJob.Run
