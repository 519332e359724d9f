import KernelJob.Settings.Files

/-! # Listings

What commands print of the registry of kernels and of the settings, line by line.
-/

namespace KernelJob

/-! ## Kernels -/

namespace Registry

/-- The heading of the list of kernels. -/
def heading : Text :=
  Text.padRight 20 "KERNEL" ++ " " ++ Text.padRight 20 "SERVER" ++ " " ++
    Text.padLeft 14 "LAUNCH TIMEOUT" ++ " " ++ Text.padLeft 12 "MAX RESULTS"

/-- Whether an entry is the one that is used where no kernel is named: of the entries for its kernel
it is the first, as both are. -/
def isDefault (r : Registry) (s : Server) : Bool :=
  match r.find? none with
  | some d => d.kernel == s.kernel
  | none => false

/-- The line of an entry. -/
def row (r : Registry) (s : Server) : Text :=
  Text.padRight 20 s.kernel ++ " " ++ Text.padRight 20 s.serverName ++ " " ++
    Text.padLeft 14 (Text.ofFloatSix s.launchTimeout) ++ " " ++
    Text.padLeft 12 (Text.ofInt s.maxResults) ++
    (if r.isDefault s then (" (default)" : Text) else [])

/-- The entries that are listed: for each kernel of the registry the entry that looking it up
gives. -/
def listed (r : Registry) : List Server := r.kernelNames.filterMap fun name => r.find? (some name)

/-- The list of kernels. -/
def listing (r : Registry) : List Text :=
  if r.servers.isEmpty then ["No kernels are registered."]
  else heading :: r.listed.map r.row

end Registry

/-! ## Settings -/

/-- The line below a title. -/
def rule : Text := List.replicate 60 (CodePoint.ofChar '=')

/-- A text, or another one in place of the empty text. -/
def shownOr (other t : Text) : Text := if t = [] then other else t

/-- What stands for a setting that has no value. -/
def notSet : Text := "(not set)"

namespace Server

/-- The lines of an entry of the registry. -/
def shownLines (s : Server) (index : Nat) : List Text := [
  "\n[Server " ++ Text.ofNat index ++ "]",
  "  server_name: " ++ s.serverName,
  "  kernel: " ++ s.kernel,
  "  launch_timeout: " ++ Text.ofFloatSix s.launchTimeout,
  "  max_results: " ++ Text.ofInt s.maxResults,
  "  execution_timeout: " ++ (match s.executionTimeout with
    | none => "(no limit)"
    | some x => Text.ofFloatSix x),
  "  connection_file: " ++ shownOr notSet s.connectionFile]

end Server

namespace Settings

/-- All settings, line by line. -/
def shownLines (s : Settings) : List Text :=
  [("Current ipyjob Configuration:" : Text), rule,
    "\ndefault_kernel: " ++ shownOr "(first server)" s.defaultKernel] ++
  (s.servers.zipIdx.map fun e => e.1.shownLines e.2).flatten ++
  [("\n[Paths]" : Text),
    "  workspace_path: " ++ shownOr notSet s.paths.workspace,
    "  artifact_dir: " ++ shownOr notSet s.paths.artifactDirectory,
    "  report_file: " ++ shownOr notSet s.paths.reportFile,
    "\n[Logging]",
    "  log_level: " ++ s.logging.level.name,
    "  console_logging: " ++ (if s.logging.console then ("True" : Text) else "False")]

end Settings

namespace SettingsFiles

/-- The lines of one file of settings. -/
def shownFile (title : Text) (std : Path) (found : Option Path) : List Text := [
  "\n" ++ title ++ ":",
  "  Path: " ++ (found.getD std).text,
  "  Status: " ++ (if found.isSome then ("Exists" : Text) else "Not found")]

/-- Where the files of settings are or should be, line by line. -/
def shownLines (std : SettingsFiles Path) (found : SettingsFiles (Option Path)) : List Text :=
  [("Configuration File Locations:" : Text), rule] ++
  shownFile "System config (lowest priority)" std.system found.system ++
  shownFile "User config" std.user found.user ++
  shownFile "Project config (highest priority)" std.project found.project ++
  [("\nPriority order (highest to lowest):" : Text),
    "  1. Environment variables",
    "  2. Project config (.ipyjob/config.toml or ipyjob.toml)",
    "  3. User config (~/.config/ipyjob/config.toml)",
    "  4. System config (/etc/ipyjob/config.toml)",
    "  5. Default values"]

end SettingsFiles

end KernelJob
