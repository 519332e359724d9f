import KernelJob.Settings.Layers
import KernelJob.Toml.Reader

/-! # Files of settings

Where the files of settings and the log lie, the example of such a file, and loading the settings
from all layers.
-/

namespace KernelJob

/-- The files of settings: those of the system, the user and the project. -/
structure SettingsFiles (α : Type) where
  system : α
  user : α
  project : α

/-- What settings are loaded from. -/
structure Surroundings where
  env : Environment
  /-- The file of the system's settings. -/
  systemFile : Path := Path.ofText "/etc/ipyjob/config.toml"

namespace Surroundings

/-- The name of the program and of its directories. -/
def programName : Text := "ipyjob"

/-- The home directory that the system knows of. -/
def systemHome : Text := "/root"

/-- The user's home directory, as the start of a path: that of the variable, if it is absolute. -/
def homeText (s : Surroundings) : Text :=
  let home := match s.env.get? "HOME" with
    | some t => if (Path.ofText t).isAbsolute then t else systemHome
    | none => systemHome
  (home.reverse.dropWhile (· == Path.slash)).reverse

/-- A base directory of the user: that of a variable that holds an absolute path, or else one below
the home directory. -/
def baseDirectory (s : Surroundings) (variableName below : Text) : Path :=
  let standard := Path.ofText (s.homeText ++ below)
  match s.env.get? variableName with
  | some t => if (Path.ofText t).isAbsolute then Path.ofText t else standard
  | none => standard

/-- The directory of the user's settings. -/
def userDirectory (s : Surroundings) : Path :=
  (s.baseDirectory "XDG_CONFIG_HOME" "/.config").child programName

/-- The directory of the log. -/
def logDirectory (s : Surroundings) : Path :=
  ((s.baseDirectory "XDG_STATE_HOME" "/.local/state").child programName).child "log"

/-- The file of the log. -/
def logFile (s : Surroundings) : Path := s.logDirectory.child "ipyjob.log"

end Surroundings

/-- A place as a path. -/
def Place.path (p : Place) : Path := ⟨.slash, p⟩

namespace SettingsFiles

/-- Where the files of settings should lie. -/
def standard (s : Surroundings) (files : FileTree) : SettingsFiles Path where
  system := s.systemFile
  user := s.userDirectory.child "config.toml"
  project := (Place.path files.workingDirectory).child ".ipyjob/config.toml"

/-- The first path at which something stands. -/
def firstExisting (files : FileTree) : List Path → Except FileFault (Option Path)
  | [] => .ok none
  | p :: ps =>
    match files.exists? p with
    | .error fault => .error fault
    | .ok true => .ok (some p)
    | .ok false => firstExisting files ps

/-- The files of settings that are there. The project has two names for its file. -/
def existing (s : Surroundings) (files : FileTree) :
    Except FileFault (SettingsFiles (Option Path)) := do
  let std := standard s files
  let system ← firstExisting files [std.system]
  let user ← firstExisting files [std.user]
  let project ← firstExisting files
    [std.project, (Place.path files.workingDirectory).child "ipyjob.toml"]
  return ⟨system, user, project⟩

end SettingsFiles

/-! ## Loading -/

namespace Settings

/-- The layer of a file; one that cannot be read or breaks the grammar counts as empty. -/
def fileLayer (files : FileTree) : Option Path → Fields
  | none => []
  | some p =>
    match files.read p with
    | .error _ => []
    | .ok bytes => Environment.namedFields Environment.fieldNames ((Toml.readBytes bytes).getD [])

/-- All layers, the highest first; `values` are given by hand. -/
def layers (s : Surroundings) (files : FileTree) (values : Fields) :
    Except SettingsFault (List Fields) := do
  let found ← (SettingsFiles.existing s files).mapError SettingsFault.file
  let own ← s.env.layer
  return [own, s.env.jobLayer, fileLayer files found.project, fileLayer files found.user,
    fileLayer files found.system, Environment.namedFields Environment.fieldNames values]

/-- The settings of all layers. -/
def load (s : Surroundings) (files : FileTree) (values : Fields) :
    Except SettingsFault Settings := do
  let ls ← layers s files values
  (Settings.ofFields (mergeLayers ls)).mapError SettingsFault.ofComplaints

/-- The settings in use, and those kept for the next time: settings loaded before are used again
unless they are to be loaded anew, and a load that fails leaves what was kept. -/
def current (kept : Option Settings) (reload : Bool) (loaded : Except SettingsFault Settings) :
    Except SettingsFault Settings × Option Settings :=
  match kept, reload with
  | some settings, false => (.ok settings, some settings)
  | _, _ =>
    match loaded with
    | .ok settings => (.ok settings, some settings)
    | .error fault => (.error fault, kept)

end Settings

/-! ## The example -/

/-- The lines of the example of a file of settings. -/
def exampleLines : List String := [
  "# ipyjob Configuration File",
  "#",
  "# Configuration files are loaded from (in priority order):",
  "#   1. .ipyjob/config.toml or ipyjob.toml (project directory)",
  "#   2. ~/.config/ipyjob/config.toml (user directory)",
  "#   3. /etc/ipyjob/config.toml (system directory, Linux/Unix only)",
  "#",
  "# Environment variables can override any setting (highest priority).",
  "# Nested settings use double underscores: IPYJOB_<SECTION>__<KEY>",
  "#",
  "# Examples:",
  "#   IPYJOB_LOGGING__LOG_LEVEL=DEBUG",
  "#   IPYJOB_KERNEL=python3",
  "",
  "# Kernel used when a job does not name one (empty: the first server below)",
  "default_kernel = \"\"",
  "",
  "# Kernel registry. Each entry describes one kernel a job may run on.",
  "[[servers]]",
  "# Display name of the language/server",
  "server_name = \"Python\"",
  "# Name of the Jupyter kernel spec (see `jupyter kernelspec list`)",
  "kernel = \"python3\"",
  "# Seconds to wait for the kernel to become ready",
  "launch_timeout = 30.0",
  "# Maximum number of output lines kept per code unit",
  "max_results = 1000",
  "# Maximum seconds a single code unit may run; remove for no limit",
  "# execution_timeout = 600.0",
  "# Attach to a running kernel instead of starting one",
  "connection_file = \"\"",
  "",
  "[paths]",
  "# Workspace against which relative source files are resolved",
  "# Environment variable: WORKSPACE (no IPYJOB_ prefix)",
  "workspace_path = \"\"",
  "",
  "# Directory for rich outputs (images, HTML); empty disables saving",
  "artifact_dir = \"\"",
  "",
  "# File to which the JSON execution report is written",
  "report_file = \"\"",
  "",
  "[logging]",
  "# Logging level: DEBUG, INFO, WARNING, ERROR, CRITICAL",
  "# Environment variable: IPYJOB_LOGGING__LOG_LEVEL",
  "log_level = \"INFO\"",
  "",
  "# Also log to the console, not only to the log file",
  "console_logging = false"]

/-- The example of a file of settings, which spells out every default. -/
def exampleSettings : Text := exampleLines.flatMap fun line => Text.ofString line ++ "\n"

/-- Why no example was written. -/
inductive ExampleFault
  /-- There is no such place for it. -/
  | unknownLocation (name : Text)
  | file (fault : FileFault)
deriving DecidableEq, Repr

/-- Why no example was written, in words. -/
def ExampleFault.message : ExampleFault → Text
  | .unknownLocation name =>
    "Invalid location: " ++ name ++ ". Must be 'user' or 'project'"
  | .file fault => fault.message

/-- The place of an example by name. -/
def exampleLocation? (std : SettingsFiles Path) (name : Text) : Option Path :=
  if name = "user" then some std.user else if name = "project" then some std.project else none

/-- Writes a file with the directories above it. -/
def writeBelow (files : FileTree) (path : Path) (bytes : List UInt8) :
    FileTree × Except FileFault Unit :=
  match files.makeDirectories path.parent with
  | (files, .error fault) => (files, .error fault)
  | (files, .ok _) =>
    match files.write path bytes with
    | .ok files => (files, .ok ())
    | .error fault => (files, .error fault)

/-- Writes the example to its place. -/
def writeExample (s : Surroundings) (files : FileTree) (location : Text) :
    FileTree × Except ExampleFault Path :=
  match exampleLocation? (SettingsFiles.standard s files) location with
  | none => (files, .error (.unknownLocation location))
  | some path =>
    match writeBelow files path (exampleSettings.flatMap Text.utf8Point) with
    | (files, .error fault) => (files, .error (.file fault))
    | (files, .ok _) => (files, .ok path)

end KernelJob
