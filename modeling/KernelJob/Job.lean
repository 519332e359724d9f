import KernelJob.Run.Orchestrate
import KernelJob.Settings.Server

/-! # Jobs

A job is a piece of code or a file, a label, and the name of a kernel. It is turned into the
configuration of a run, executed, and its report can be written to a file.
-/

namespace KernelJob

/-- A text without surrounding blanks, if anything is left. -/
def nonBlank (t : Option Text) : Option Text :=
  match t.map Text.trim with
  | some (c :: cs) => some (c :: cs)
  | _ => none

/-- The settings of a job; any of them may be missing. -/
structure JobSettings where
  code : Option Text := some []
  filePath : Option Text := none
  /-- `text` for code, `file` for a file whose format follows from its name, or a format. -/
  parser : Option Text := some "text"
  /-- The label. -/
  task : Option Text := some []
  kernel : Option Text := none
deriving DecidableEq, Repr

namespace JobSettings

/-- The settings as entered; blank paths and kernels count as absent. -/
def entered (code filePath parser task kernel : Option Text) : JobSettings :=
  ⟨code, nonBlank filePath, parser, task, nonBlank kernel⟩

/-- The parser for code. -/
def textParser : Text := "text"

/-- The parser for files. -/
def fileParser : Text := "file"

/-- Whether the job is a piece of code. -/
def isText (s : JobSettings) : Bool := s.parser == some textParser

/-- The parser, empty if it is missing. -/
def parserName (s : JobSettings) : Text := s.parser.getD []

/-- The label, empty if it is missing. -/
def label (s : JobSettings) : Text := s.task.getD []

/-- The code, empty if it is missing. -/
def source (s : JobSettings) : Text := s.code.getD []

/-- The label as it stands in the log. -/
def shownLabel (s : JobSettings) : Text := s.task.getD "None"

end JobSettings

/-- What checking a setting says. -/
inductive SettingCheck
  | ok
  | warning (message : Text)
  | error (message : Text)
deriving DecidableEq, Repr

namespace SettingCheck

/-- Whether nothing is wrong. -/
def isOk : SettingCheck → Bool
  | .ok => true
  | _ => false

/-- The name of the kind of a check's outcome. -/
def kind : SettingCheck → Text
  | .ok => "ok"
  | .warning _ => "warning"
  | .error _ => "error"

/-- What is said. -/
def message : SettingCheck → Text
  | .ok => []
  | .warning m => m
  | .error m => m

/-- Whether a setting has a value. -/
def isGiven (t : Option Text) : Bool := t.getD [] != []

/-- Checks the code of a job. -/
def ofCode (code : Option Text) : SettingCheck :=
  if isGiven code then .ok else .error "Code is empty"

/-- Checks the file of a job. -/
def ofFilePath (path : Option Text) : SettingCheck :=
  if isGiven path then .ok else .warning "The file path is required to execute"

/-- Checks the label of a job. -/
def ofTask (task : Option Text) : SettingCheck :=
  if isGiven task then .ok else .warning "Task name is required to save the artifacts"

end SettingCheck

/-- What a job is run with. -/
structure JobAdapter where
  registry : Registry
  artifactDirectory : Option Path := none

namespace JobAdapter

/-- The source of a job: its mode, the code or path, and the declared format. -/
def sourceOf (s : JobSettings) :
    Except ConfigFault (SourceMode × Text × Option SourceFormat) :=
  if s.parserName = JobSettings.textParser then .ok (.inline, s.source, some .text)
  else if s.parserName = JobSettings.fileParser then .ok (.file, s.filePath.getD [], none)
  else
    match SourceFormat.parse s.parserName with
    | .error fault => .error fault
    | .ok format =>
      match s.filePath with
      | some (c :: cs) => .ok (.file, c :: cs, some format)
      | _ => .ok (.inline, s.source, some format)

/-- A path from a text, none for the empty text. -/
def pathOf (t : Text) : Option Path := if t = [] then none else some (Path.ofText t)

/-- The configuration of the run for a job. -/
def buildConfig (a : JobAdapter) (s : JobSettings) (workspace : Path) :
    Except ConfigFault RunConfig :=
  if s.parserName = [] ∨ s.label = [] then .error .jobIncomplete
  else
    match a.registry.get s.kernel with
    | .error fault => .error fault
    | .ok server =>
      match sourceOf s with
      | .error fault => .error fault
      | .ok (mode, source, format) =>
        .ok {
          kernel := server.kernel
          serverName := server.serverName
          launchTimeout := server.launchTimeout
          maxResults := server.maxResults
          mode := mode
          source := source
          format := format
          task := s.label
          workspace := workspace
          executionTimeout := server.executionTimeout
          connectionFile := pathOf server.connectionFile
          artifactDirectory := a.artifactDirectory }

/-- The path of a job's source, seen from the workspace; code that is missing has none. -/
def sourcePath (s : JobSettings) (config : RunConfig) : Except Misfit Path :=
  match config.mode, s.code with
  | .inline, none => .error (.noPath Json.null.kindName)
  | _, _ => .ok config.sourcePath

/-- The report of a job that was not started; it has to have a label. -/
def notStarted (s : JobSettings) (fault : ConfigFault) : Checked Report :=
  match s.task with
  | none => .error [⟨[.key "task"], .notText⟩]
  | some task =>
    .ok {
      succeeded := false
      diagnostics := ["Configuration error: " ++ fault.message]
      kernel := s.kernel.getD []
      task := task }

open KernelJob.Action in
/-- Runs a job and gives its report. -/
def perform (a : JobAdapter) (s : JobSettings) (workspace : Path) (setting : Run.Setting) :
    Action Report := do
  match a.buildConfig s workspace with
  | .error fault =>
    record .warning .job (s.shownLabel ++ ":Job not started: " ++ fault.message)
    emit setting.sink ("Configuration error: " ++ fault.message)
    emit setting.sink "Finished: FAILURE"
    ofExcept ((notStarted s fault).mapError (Failure.invalid Report.model))
  | .ok config =>
    let report ← Run.run setting config
    record .info .job (s.shownLabel ++ ":Job finished with status " ++ report.verdict)
    return report

end JobAdapter

open KernelJob.Action in
/-- Writes a report to a file, with the directories above it. -/
def Report.write (r : Report) (path : Path) : Action Unit := do
  let w ← world
  let (files, made) := w.files.makeDirectories path.parent
  change fun w => { w with files := files }
  match made with
  | .error fault => fail (.file fault)
  | .ok _ =>
    let text ← ofExcept (r.fileText.mapError Failure.report)
    match ArtifactStore.writeContent files path (Text.utf8 text) with
    | (files, outcome) =>
      change fun w => { w with files := files }
      ofExcept (outcome.mapError Failure.save)
      record .debug .job ("Wrote execution report to " ++ path.text)

end KernelJob
