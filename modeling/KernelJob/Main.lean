import KernelJob.Command.Perform
import Std.Time

/-! # The program

Does one command on the machine's own files: the files that the command may look at are read, the
command is done on them, and what it changed is written back. The program carries no transport to
kernels, so it knows none, and a job that needs one ends with a report that says so.
-/

namespace KernelJob.Machine

/-- The variables of the environment. -/
def environment : IO Environment := do
  let bytes ← IO.FS.readBinFile "/proc/self/environ"
  match Text.ofUtf8 bytes.toList with
  | .error _ => return []
  | .ok t =>
    return (Text.splitOn (.ofNat 0) t).filterMap fun v =>
      match Arguments.cutValue v with
      | (name, some value) => some (name, value)
      | (_, none) => none

/-- What stands at a place of the machine. -/
def entryAt (place : Place) : IO (Option Entry) := do
  let path := (← IO.currentDir) / (Place.path place).text.toString
  if ← path.isDir then return some .directory
  if ← path.pathExists then return some (.file (← IO.FS.readBinFile path).toList)
  return none

/-- The places on the way of a path. -/
def placesOf (workingDirectory : Place) (p : Path) : List Place :=
  let full := p.under (Place.path workingDirectory)
  (List.range (full.names.length + 1)).map fun n =>
    (full.names.take n).foldl (fun place name =>
      if name = Path.up then place.dropLast else place ++ [name]) []

/-- The tree with everything on the way of some paths. -/
def look (files : FileTree) (paths : List Path) : IO FileTree := do
  let mut files := files
  for place in paths.flatMap (placesOf files.workingDirectory) do
    if (files.find? place).isNone then
      if let some e ← entryAt place then files := files.put place e
  return files

/-- The paths that every command may look at. -/
def commonPaths (shell : Shell) (files : FileTree) (args : List Text) : List Path :=
  let std := SettingsFiles.standard shell.surroundings files
  [std.system, std.user, std.project, Path.ofText "ipyjob.toml", shell.surroundings.logFile] ++
    args.map Path.ofText

/-- The paths that a job may look at. -/
def jobPaths (shell : Shell) (files : FileTree) (args : List Text) : List Path :=
  match Command.read files args, Settings.load shell.surroundings files [] with
  | .ok (.run o), .ok settings =>
    let workspace := o.workspaceIn settings files
    let source := match o.source with
      | .code _ => []
      | .file path => [(Path.ofText path.trim).under workspace]
    source ++ (o.reportFile settings).toList ++ (o.adapter settings).artifactDirectory.toList
  | _, _ => []

/-- Writes one changed entry back. -/
def putBack (place : Place) (e : Entry) : IO Unit := do
  let path := (← IO.currentDir) / (Place.path place).text.toString
  match e with
  | .directory => IO.FS.createDirAll path
  | .file bytes => IO.FS.writeBinFile path ⟨bytes.toArray⟩

/-- Writes back what has changed, directories first. -/
def putBackAll (old new : FileTree) : IO Unit := do
  let changed := new.entries.filter fun e => old.find? e.1 != some e.2
  for e in changed do
    if e.2 = .directory then putBack e.1 e.2
  for e in changed do
    if e.2 ≠ .directory then putBack e.1 e.2

/-- Adds what has been logged to its files, and shows it where that is wanted. -/
def writeLog (log : Log) : IO Unit := do
  let now ← Std.Time.PlainDateTime.now
  let time := now.format "uuuu-MM-dd HH:mm:ss"
  for (target, record) in log.written do
    let line := time ++ " - " ++ record.source.name.toString ++ " - " ++
      record.level.name.toString ++ " - " ++ record.message.toString
    let handle ← IO.FS.Handle.mk target.file.text.toString .append
    handle.putStrLn line
    if target.console then IO.eprintln line

/-- What is said of a failure that a command has no rule for. -/
def fatalMessage : Fatal → Text
  | .settings (.unparsable field) => unparsableMessage field
  | .settings (.invalid es) => Shell.invalidComplaint es
  | .settings (.encoding fault) => fault.message
  | .settings (.file fault) => fault.message
  | .failure e => e.name ++ ": " ++ e.message

/-- Does what arguments ask for and gives the exit code. -/
def run (args : List Text) : IO UInt32 := do
  let workingDirectory := (Path.ofText (Text.ofString (← IO.currentDir).toString)).names
  let shell : Shell := { surroundings := { env := ← environment }, kernel := { known := [] } }
  let start : FileTree := { workingDirectory := workingDirectory }
  let files ← look start (commonPaths shell start args)
  let files ← look files (jobPaths shell files args)
  let outcome := shell.invoke { files := files } args
  IO.print outcome.output.toString
  IO.eprint outcome.errorOutput.toString
  putBackAll files outcome.site.files
  writeLog outcome.site.log
  if let some fatal := outcome.fatal then IO.eprintln (fatalMessage fatal).toString
  return outcome.exitCode.toUInt32

end KernelJob.Machine

/-- Runs the program. -/
def main (args : List String) : IO UInt32 :=
  KernelJob.Machine.run (args.map KernelJob.Text.ofString)
