import KernelJob.Settings.Server
import KernelJob.Text.Case
import KernelJob.World

/-! # Settings

All settings of the program: the registry of kernels, paths and logging. They are read from an
object; whatever it leaves out has a default.
-/

namespace KernelJob

/-- Settings of paths; an empty text stands for none. -/
structure PathSettings where
  /-- The directory that relative sources start from. -/
  workspace : Text := []
  /-- The directory for artifacts. -/
  artifactDirectory : Text := []
  /-- The file for the report. -/
  reportFile : Text := []
deriving DecidableEq, Repr

/-- Settings of logging. -/
structure LogSettings where
  level : LogLevel := .info
  /-- Whether records go to the console too. -/
  console : Bool := false
deriving DecidableEq, Repr

/-- All settings. -/
structure Settings where
  servers : List Server := [{}]
  defaultKernel : Text := []
  paths : PathSettings := {}
  logging : LogSettings := {}

namespace PathSettings

/-- The settings that fields describe. -/
def ofFields (fields : Fields) : Checked PathSettings :=
  ((Checked.fieldOr fields "workspace_path" [] fun v => .ofReading v.readText).both
    ((Checked.fieldOr fields "artifact_dir" [] fun v => .ofReading v.readText).both
      (Checked.fieldOr fields "report_file" [] fun v => .ofReading v.readText))).map
  fun (workspace, artifacts, report) => ⟨workspace, artifacts, report⟩

/-- The settings that a value describes. -/
def read (v : Json) : Checked PathSettings :=
  match v.readFields "PathsConfig" with
  | .ok fields => ofFields fields
  | .error p => .error [⟨[], p⟩]

end PathSettings

namespace LogSettings

/-- What is said of a text that names no level. -/
def levelMessage (t : Text) : Text :=
  "Log level must be one of ['DEBUG', 'INFO', 'WARNING', 'ERROR', 'CRITICAL'], got " ++ t

/-- A level from its name in any letter case. -/
def readLevel (v : Json) : Except Problem LogLevel :=
  match v.readText with
  | .error p => .error p
  | .ok t =>
    match LogLevel.ofName? t.upper with
    | some level => .ok level
    | none => .error (.custom (levelMessage t))

/-- The settings that fields describe. -/
def ofFields (fields : Fields) : Checked LogSettings :=
  ((Checked.fieldOr fields "log_level" .info fun v => .ofReading (readLevel v)).both
    (Checked.fieldOr fields "console_logging" false fun v => .ofReading v.readBool)).map
  fun (level, console) => ⟨level, console⟩

/-- The settings that a value describes. -/
def read (v : Json) : Checked LogSettings :=
  match v.readFields "LoggingConfig" with
  | .ok fields => ofFields fields
  | .error p => .error [⟨[], p⟩]

end LogSettings

namespace Settings

/-- The name of the model in complaints. -/
def model : Text := "IpyjobConfig"

/-- The settings that fields describe. -/
def ofFields (fields : Fields) : Checked Settings :=
  (((Checked.fieldOr fields "servers" [{}] (Checked.list Server.read)).both
    (Checked.fieldOr fields "default_kernel" [] fun v => .ofReading v.readText)).both
  ((Checked.fieldOr fields "paths" {} PathSettings.read).both
    (Checked.fieldOr fields "logging" {} LogSettings.read))).map
  fun ((servers, kernel), paths, logging) => ⟨servers, kernel, paths, logging⟩

/-- The registry of kernels. -/
def registry (s : Settings) : Registry := ⟨s.servers, s.defaultKernel⟩

end Settings

end KernelJob
