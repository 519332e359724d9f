import KernelJob.Command.Listing
import KernelJob.Command.Outcome
import KernelJob.Job

/-! # Commands at work

`Shell.invoke` reads arguments and does what they ask for. The command `run` executes a job: it
prints the lines of the job, writes its report where one is wanted, and exits with 0 only if the job
succeeded.
-/

namespace KernelJob

/-- What commands are given from outside. -/
structure Shell where
  surroundings : Surroundings
  kernel : Kernel
  /-- What is said of the life of a kernel at first. -/
  kernelAlive : Liveness := true

/-- The parser for code or for a file. -/
def RunSource.parser : RunSource → Text
  | .code _ => JobSettings.textParser
  | .file _ => JobSettings.fileParser

namespace RunOptions

/-- The parser of a job: the format if one is given, else that of code or of a file. -/
def parser (o : RunOptions) : Text :=
  match o.format with
  | some (c :: cs) => c :: cs
  | _ => o.source.parser

/-- The settings of the job. -/
def jobSettings (o : RunOptions) : JobSettings :=
  match o.source with
  | .code code => JobSettings.entered (some code) none (some o.parser) (some o.task) o.kernel
  | .file path => JobSettings.entered (some []) (some path) (some o.parser) (some o.task) o.kernel

/-- A path that is given, else that of the settings, else none. -/
def pathOr (given : Option Path) (setting : Text) : Option Path :=
  given.or (JobAdapter.pathOf setting)

/-- The level of the log. -/
def logLevel (o : RunOptions) (s : Settings) : LogLevel := o.level.getD s.logging.level

/-- The directory that relative sources start from. -/
def workspaceIn (o : RunOptions) (s : Settings) (files : FileTree) : Path :=
  (pathOr o.workspace s.paths.workspace).getD (Place.path files.workingDirectory)

/-- What the job is run with. -/
def adapter (o : RunOptions) (s : Settings) : JobAdapter :=
  ⟨s.registry, pathOr o.artifactDirectory s.paths.artifactDirectory⟩

/-- The file for the report, if one is wanted. -/
def reportFile (o : RunOptions) (s : Settings) : Option Path := pathOr o.report s.paths.reportFile

end RunOptions

/-- Whether the operating system itself reported a failure. -/
def Failure.isOs : Failure → Bool
  | .file fault => fault.isOs
  | .save (.file fault) => fault.isOs
  | _ => false

/-! ## Running a job -/

/-- The receiver that prints lines; a line that cannot be printed is its failure. -/
def printingSink : Sink :=
  ⟨fun _ line => { failure := (Outcome.printFault? line).map Failure.encoding }⟩

/-- The world at the start of a command. -/
def World.atStart (files : FileTree) (alive : Liveness) : World :=
  { handle := { config := { kernel := [], workspace := ⟨.relative, []⟩ } }, files := files,
    alive := alive }

open KernelJob.Action in
/-- Writes a report where one is wanted. A failure that the operating system reports is given back
and is no failure of the job. -/
def Report.writeTo (r : Report) : Option Path → Action (Option (Path × Failure))
  | none => ok none
  | some path => do
    match ← attempt (r.write path) with
    | .ok _ => ok none
    | .error e =>
      if e.isOs then
        record .error .command ("Error writing report: " ++ e.message)
        ok (some (path, e))
      else fail e

open KernelJob.Action in
/-- Runs the job of a command and writes its report. -/
def RunOptions.perform (o : RunOptions) (s : Settings) (kernel : Kernel) :
    Action (Report × Option (Path × Failure)) := do
  let w ← world
  let report ← (o.adapter s).perform o.jobSettings (o.workspaceIn s w.files) ⟨kernel, printingSink⟩
  let unwritten ← report.writeTo (o.reportFile s)
  record .info .command (o.task ++ ":Exiting with status " ++ report.verdict)
  return (report, unwritten)

/-- What is said of a report that could not be written. -/
def unwrittenComplaint (path : Path) (e : Failure) : Text :=
  "Error writing report to " ++ path.text ++ ": " ++ e.message

namespace Shell

/-- Opens the log for a command: makes its file and gives the target for the command's records. -/
def openLog (shell : Shell) (site : Site) (level : LogLevel) (console : Bool) :
    Site × Except FileFault LogTarget :=
  match site.files.makeDirectories shell.surroundings.logDirectory with
  | (files, .error fault) => ({ site with files := files }, .error fault)
  | (files, .ok _) =>
    let file := (shell.surroundings.logFile.under (Place.path files.workingDirectory)).collapsed
    match files.locateFile file with
    | .error fault => ({ site with files := files }, .error fault)
    | .ok place =>
      let files := if (files.find? place).isSome then files else files.put place (.file [])
      ({ site with files := files }, .ok ⟨file, level, console⟩)

/-- The settings for a command. -/
def settings (shell : Shell) (site : Site) : Except SettingsFault Settings :=
  Settings.load shell.surroundings site.files []

/-- What is said of settings that are not valid. -/
def invalidComplaint (es : List Complaint) : Text :=
  "Invalid configuration: " ++ Complaint.summary Settings.model es ++
    es.flatMap fun e => ("\n" : Text) ++ e.problem.message

/-- Goes on with the settings, if they can be loaded; settings that are not valid count as
misuse. -/
def withSettings (shell : Shell) (site : Site) (next : Settings → Outcome) : Outcome :=
  match shell.settings site with
  | .ok settings => next settings
  | .error (.invalid es) => .ofComplaint site Outcome.misused (invalidComplaint es)
  | .error fault => .ofFatal site (.settings fault)

/-- The outcome of a job: what it printed, and the exit code by its report. -/
def runOutcome (site : Site) (target : LogTarget)
    (r : Except Failure (Report × Option (Path × Failure))) (w : World) : Outcome :=
  let base : Outcome := {
    output := ((w.lines.filter fun l => (Outcome.printFault? l).isNone).map Outcome.printed).flatten
    trace := w.trace
    site := ⟨w.files, site.log.write target w.records⟩ }
  match r with
  | .error e => { base with exitCode := Outcome.failed, fatal := some (.failure e) }
  | .ok (report, unwritten) =>
    { base with
      exitCode := if report.succeeded then 0 else Outcome.failed
      errorOutput := match unwritten with
        | none => []
        | some (path, e) => Outcome.printedError (unwrittenComplaint path e) }

/-- Runs a job. -/
def run (shell : Shell) (site : Site) (o : RunOptions) : Outcome :=
  shell.withSettings site fun settings =>
    match shell.openLog site (o.logLevel settings) (o.console || settings.logging.console) with
    | (site, .error fault) => .ofFatal site (.failure (.file fault))
    | (site, .ok target) =>
      match o.perform settings shell.kernel (.atStart site.files shell.kernelAlive) with
      | (r, w) => runOutcome site target r w

/-! ## Other commands -/

/-- Lists the kernels. -/
def listKernels (shell : Shell) (site : Site) : Outcome :=
  shell.withSettings site fun settings => .ofLines site settings.registry.listing

/-- Shows the settings. -/
def showSettings (shell : Shell) (site : Site) : Outcome :=
  match shell.settings site with
  | .ok settings => .ofLines site settings.shownLines
  | .error fault => .ofFatal site (.settings fault)

/-- Shows where files of settings are. -/
def locateSettings (shell : Shell) (site : Site) : Outcome :=
  match SettingsFiles.existing shell.surroundings site.files with
  | .error fault => .ofFatal site (.failure (.file fault))
  | .ok found =>
    .ofLines site (SettingsFiles.shownLines (.standard shell.surroundings site.files) found)

/-- What is said of a file of settings that is there already. -/
def existsMessage (path : Path) : Text :=
  "Configuration file already exists at " ++ path.text ++ "\nUse --force to overwrite."

/-- Writes the example of a file of settings. -/
def writeExampleTo (shell : Shell) (site : Site) (location : Text) (path : Path) : Outcome :=
  match writeExample shell.surroundings site.files location with
  | (files, .ok _) =>
    .ofLines { site with files := files }
      ["Created configuration file: " ++ path.text, "\nEdit this file to register your kernels."]
  | (files, .error (.file fault)) =>
    if fault.isOs then
      .ofComplaint { site with files := files } Outcome.failed
        ("Error creating configuration file: " ++ fault.message)
    else .ofFatal { site with files := files } (.failure (.file fault))
  | (files, .error fault) => .ofComplaint { site with files := files } Outcome.failed fault.message

/-- Writes the example of a file of settings, unless it would replace a file against the user's
wish. -/
def initSettings (shell : Shell) (site : Site) (location : Text) (overwrite : Bool) : Outcome :=
  match exampleLocation? (.standard shell.surroundings site.files) location with
  | none => .ofComplaint site Outcome.failed (ExampleFault.unknownLocation location).message
  | some path =>
    match site.files.exists? path with
    | .error fault => .ofFatal site (.failure (.file fault))
    | .ok true =>
      if overwrite then shell.writeExampleTo site location path
      else .ofLines site [existsMessage path]
    | .ok false => shell.writeExampleTo site location path

/-- Does what a command asks for. -/
def perform (shell : Shell) (site : Site) : Command → Outcome
  | .version => .ofLines site ["ipyjob, version " ++ version]
  | .help node => .ofLines site [node.help]
  | .run options => shell.run site options
  | .kernels => shell.listKernels site
  | .writeExample location overwrite => shell.initSettings site location overwrite
  | .showSettings => shell.showSettings site
  | .locateSettings => shell.locateSettings site

/-- Does what arguments ask for. -/
def invoke (shell : Shell) (site : Site) (args : List Text) : Outcome :=
  match Command.read site.files args with
  | .error refusal => .ofRefusal site refusal
  | .ok command => shell.perform site command

end Shell

end KernelJob
