import KernelJob.World

/-! # Letting a kernel go

Interrupting a kernel and releasing it. A release goes on after an error of one of its steps and
gives a diagnostic for it; only an interruption by the user stops it.
-/

namespace KernelJob.Session

open KernelJob.Action

/-- Stops the channels of the client. -/
def stopChannels (k : Kernel) : Action Unit := do
  call .stopChannels
  raiseKernel k.stopError

/-- Shuts the kernel down. -/
def shutdownKernel (k : Kernel) : Action Unit := do
  call .shutdownKernel
  raiseKernel k.shutdownError
  changeHandle fun h => { h with manager := h.manager.map fun _ => ⟨false⟩ }

/-- Frees what the manager holds. -/
def cleanupResources (k : Kernel) : Action Unit := do
  call .cleanupResources
  raiseKernel k.cleanupError

/-- A step of a release: its failure becomes a diagnostic, unless the user interrupts it. -/
def releaseStep (step : Action Unit) (done failed diagnostic : Text) : Action (List Text) := do
  match ← attempt step with
  | .ok _ =>
    record .debug .session done
    return []
  | .error e =>
    if e.isOrdinary then
      record .debug .session (failed ++ e.message)
      return [diagnostic ++ e.message]
    else fail e

/-- Releases the manager of the handle in use, if it has one. -/
def releaseManager (k : Kernel) (kernel : Text) : Option Manager → Action (List Text)
  | none => return []
  | some m => do
    let down ←
      if m.hasKernel then
        releaseStep (shutdownKernel k) ("Shut down kernel '" ++ kernel ++ "'")
          "Error shutting down kernel: " "Error shutting down kernel: "
      else pure []
    let clean ← releaseStep (cleanupResources k)
      ("Cleaned up resources of kernel '" ++ kernel ++ "'")
      "Error cleaning up resources: " "Error cleaning up kernel resources: "
    return down ++ clean

/-- Closes the handle in use and releases its client and its kernel. A kernel that was not started
here is left running. -/
def release (k : Kernel) : Action (List Text) := do
  changeHandle fun h => { h with state := .closed }
  let w ← world
  let kernel := w.handle.config.kernel
  let stopped ←
    if w.handle.hasClient then
      releaseStep (stopChannels k) ("Stopped channels of kernel '" ++ kernel ++ "'")
        "Error stopping channels: " "Error stopping kernel channels: "
    else pure []
  let managed ← releaseManager k kernel w.handle.manager
  return stopped ++ managed

/-- Releases the handle in use, unless it is closed already. -/
def close (k : Kernel) : Action (List Text) := do
  let w ← world
  if w.handle.state = .closed then return [] else release k

/-- Interrupts the kernel if it was started here. An error in doing so is only logged. -/
def interrupt (k : Kernel) : Action Unit := do
  let w ← world
  let kernel := w.handle.config.kernel
  if w.handle.ownsKernel then
    match ← attempt (do call .interruptKernel; raiseKernel k.interruptError) with
    | .ok _ => record .debug .session ("Interrupted kernel '" ++ kernel ++ "'")
    | .error e =>
      if e.isOrdinary then
        record .warning .session ("Could not interrupt kernel '" ++ kernel ++ "': " ++ e.message)
      else fail e
  else
    record .debug .session ("Cannot interrupt kernel '" ++ kernel ++ "': not owned by session")

end KernelJob.Session
