import KernelJob.Session.Release

/-! # Connecting to a kernel

A kernel is started, or one that runs already is attached to, and then has to become ready. If a
step fails in a way that a connection can fail, all that was begun is released again.
-/

namespace KernelJob.Session

open KernelJob.Action

/-- Attaches to the kernel of a connection file. -/
def attach (k : Kernel) (file : Path) : Action Unit := do
  record .info .session ("Attaching to kernel via " ++ file.text)
  call (.newClient file.text)
  call .loadConnectionFile
  raiseKernel k.loadError

/-- The directory that a kernel is started in: the workspace, if it is a directory. -/
def launchDirectory (config : RunConfig) : Action (Option Text) := do
  let w ← world
  match w.files.isDirectory? config.workspace with
  | .error fault => fail (.file fault)
  | .ok there => return if there then some config.workspace.text else none

/-- Starts the kernel of a configuration. -/
def start (k : Kernel) (config : RunConfig) : Action Unit := do
  record .info .session ("Starting kernel '" ++ config.kernel ++ "'")
  call (.newManager config.kernel)
  changeHandle fun h => { h with manager := some {} }
  let directory ← launchDirectory config
  call (.startKernel directory)
  if !k.known.contains config.kernel then fail (.kernel ⟨.unknownKernel, config.kernel⟩)
  raiseKernel k.startError
  changeHandle fun h => { h with manager := some ⟨true⟩ }
  call .managerClient

/-- Waits until the kernel is ready. -/
def waitForReady (k : Kernel) (config : RunConfig) : Action Unit := do
  call (.waitForReady config.launchTimeout)
  if k.cancelsOnReady then cancel
  raiseKernel k.readyError

/-- Gives the handle its client and waits for the kernel. -/
def join (k : Kernel) (config : RunConfig) : Action Unit := do
  changeHandle fun h => { h with hasClient := true }
  call .startChannels
  raiseKernel k.channelsError
  waitForReady k config

/-- The steps of connecting. -/
def connectSteps (k : Kernel) (config : RunConfig) : Action Unit := do
  match config.connectionFile with
  | some file => attach k file
  | none => start k config
  join k config

/-- Why a connection failed, for the failures that are known to mean that. -/
def connectReason? (config : RunConfig) : Failure → Option Text
  | .kernel e =>
    match e.kind with
    | .unknownKernel => some ("no kernel spec named '" ++ config.kernel ++ "'")
    | .runtime | .timeout =>
      some ("kernel not ready within " ++ Text.ofFloatSix config.launchTimeout ++ " seconds (" ++
        e.message ++ ")")
    | .system | .refused | .socket => some ("connection refused (" ++ e.message ++ ")")
    | .value | .interrupt => none
  | .file fault =>
    if fault.isOs then some ("connection refused (" ++ fault.message ++ ")") else none
  | _ => none

/-- Ends a connection that failed: what was begun is released, unless the failure is one of the
program that is not known to mean that a connection failed. -/
def abandon (k : Kernel) (config : RunConfig) (e : Failure) : Action Unit := do
  match connectReason? config e with
  | some reason =>
    let _ ← release k
    fail (.connect config.kernel reason)
  | none =>
    if e.isOrdinary then fail e
    else
      let _ ← release k
      fail e

/-- Connects to the kernel of a configuration. The handle in use becomes the new one only if that
succeeds. -/
def connect (k : Kernel) (config : RunConfig) : Action Unit := do
  let before ← world
  changeHandle fun _ => { config := config }
  match ← attempt (connectSteps k config) with
  | .ok _ =>
    changeHandle fun h =>
      { h with
        state := .connected
        artifacts := config.artifactDirectory.map fun dir => .new dir config.task }
    record .info .session ("Connection to kernel '" ++ config.kernel ++ "' initiated successfully")
  | .error e =>
    let outcome ← attempt (abandon k config e)
    changeHandle fun _ => before.handle
    ofExcept outcome

end KernelJob.Session
