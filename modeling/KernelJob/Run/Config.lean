import KernelJob.Decimal.Reading
import KernelJob.Source.Format

/-! # The configuration of a run

Everything that one run needs: the kernel, the source and where it comes from, the limits, and the
directories. `RunConfig.check` says whether a configuration is complete enough to start a run.
-/

namespace KernelJob

/-- Where the source of a run comes from. -/
inductive SourceMode
  /-- The source is the code itself. -/
  | inline
  /-- The source is the path of a file. -/
  | file
deriving DecidableEq, Repr

/-- The name of a mode. -/
def SourceMode.name : SourceMode → Text
  | .inline => "inline-text"
  | .file => "file"

/-- The mode with some name. -/
def SourceMode.ofName? (t : Text) : Option SourceMode :=
  if t = SourceMode.inline.name then some .inline
  else if t = SourceMode.file.name then some .file
  else none

@[simp] theorem SourceMode.ofName?_name (m : SourceMode) : ofName? m.name = some m := by
  cases m <;> decide

/-- The configuration of one run. -/
structure RunConfig where
  /-- The kernel to run on. -/
  kernel : Text
  /-- The display name of the server. -/
  serverName : Text := []
  /-- The seconds within which the kernel has to become ready. -/
  launchTimeout : Float := 30.0
  /-- The most lines of output kept for a unit. -/
  maxResults : Int := 1000
  mode : SourceMode := .inline
  /-- The code, or the path of the file that holds it. -/
  source : Text := []
  /-- The declared format; without one it follows from the mode and the path. -/
  format : Option SourceFormat := none
  /-- The label of the run. -/
  task : Text := []
  /-- The directory that relative sources start from. -/
  workspace : Path
  /-- The seconds that a single unit may take. -/
  executionTimeout : Option Float := none
  /-- The connection file of a kernel that is running already. -/
  connectionFile : Option Path := none
  /-- The directory for artifacts. -/
  artifactDirectory : Option Path := none

/-- What is missing or wrong in the configuration of a run or a job. -/
inductive ConfigFault
  | unknownFormat (name : Text)
  | noKernel
  | noTask
  | noFormat
  | negativeLimit (limit : Int)
  | launchTimeout (seconds : Float)
  | executionTimeout (seconds : Float)
  | jobIncomplete
  | noKernels
  | unknownKernel (name : Text)

/-- What is missing or wrong, in words. -/
def ConfigFault.message : ConfigFault → Text
  | .unknownFormat name => "Unknown source format: " ++ name.quoted
  | .noKernel => "No kernel configured"
  | .noTask => "No task configured"
  | .noFormat => "No source format configured for inline code"
  | .negativeLimit n => "max_results must not be negative, got " ++ Text.ofInt n
  | .launchTimeout x => "launch_timeout must be positive, got " ++ Text.ofFloat x
  | .executionTimeout x => "execution_timeout must be positive, got " ++ Text.ofFloat x
  | .jobIncomplete => "Job is mis-configured: parser type and task are required"
  | .noKernels => "No kernels are registered"
  | .unknownKernel name => "No valid kernel exists for " ++ name.quoted

/-- The format that a name stands for. -/
def SourceFormat.parse (name : Text) : Except ConfigFault SourceFormat :=
  match SourceFormat.parse? name with
  | some f => .ok f
  | none => .error (.unknownFormat name)

namespace RunConfig

/-- The name shown for the server: its own, or that of the kernel. -/
def displayName (c : RunConfig) : Text := if c.serverName = [] then c.kernel else c.serverName

/-- The path of a file source, seen from the workspace. -/
def sourcePath (c : RunConfig) : Path := (Path.ofText c.source).under c.workspace

/-- The format in which the source is read: the declared one, else that of inline code or that of
the path. -/
def effectiveFormat (c : RunConfig) : SourceFormat :=
  match c.format with
  | some f => f
  | none =>
    match c.mode with
    | .inline => .text
    | .file => SourceFormat.ofPath (Path.ofText c.source)

/-- Whether the configuration is complete enough to start a run. -/
def check (c : RunConfig) : Except ConfigFault Unit :=
  if c.kernel.isBlank then .error .noKernel
  else if c.task.isBlank then .error .noTask
  else if c.mode = .inline ∧ c.format = none then .error .noFormat
  else if c.maxResults < 0 then .error (.negativeLimit c.maxResults)
  else if c.launchTimeout ≤ 0.0 then .error (.launchTimeout c.launchTimeout)
  else
    match c.executionTimeout with
    | some x => if x ≤ 0.0 then .error (.executionTimeout x) else .ok ()
    | none => .ok ()

end RunConfig

end KernelJob
