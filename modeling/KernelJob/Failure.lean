import KernelJob.Artifact.Store
import KernelJob.Kernel.Script
import KernelJob.Run.Config
import KernelJob.Run.Report
import KernelJob.Settings.Checked
import KernelJob.Source.Document

/-! # Failures

Every cause for which a step of a run does not complete. `Failure.message` is what its message says
and `Failure.name` the name of its kind, as they stand in diagnostics.
-/

namespace KernelJob

/-- The state of the connection to a kernel. -/
inductive HandleState
  | created
  | connected
  | executing
  | closed
deriving DecidableEq, Repr

/-- The name of a state. -/
def HandleState.name : HandleState → Text
  | .created => "created"
  | .connected => "connected"
  | .executing => "executing"
  | .closed => "closed"

/-- How the connection to a kernel was lost. -/
inductive TransportFault
  /-- There was no connection. -/
  | notConnected (state : HandleState)
  /-- Code could not be sent. -/
  | notSent (error : KernelError)
  /-- No message could be fetched. -/
  | lost (error : KernelError)
  /-- The kernel died. -/
  | died (kernel : Text)
deriving DecidableEq, Repr

/-- How the connection was lost, in words. -/
def TransportFault.message : TransportFault → Text
  | .notConnected state => "Kernel session is not connected (" ++ state.name ++ ")"
  | .notSent e => "Could not send code to kernel: " ++ e.message
  | .lost e => "Lost connection to kernel: " ++ e.message
  | .died kernel => "Kernel '" ++ kernel ++ "' died during execution"

/-- Where a run noticed that it was cancelled. -/
inductive CancelPoint
  | beforeConnecting
  | whileStarting
  | beforeUnit (unit : Int)
  | duringUnit (unit : Int)
deriving DecidableEq, Repr

/-- Where the cancellation was noticed, in words. -/
def CancelPoint.message : CancelPoint → Text
  | .beforeConnecting => "Cancelled before connecting to the kernel"
  | .whileStarting => "Cancelled while the kernel was starting"
  | .beforeUnit n => "Cancelled before unit " ++ Text.ofInt n
  | .duringUnit n => "Execution of unit " ++ Text.ofInt n ++ " cancelled"

/-- An error of the code itself, as the kernel reported it. -/
structure CodeFault where
  name : Json
  value : Json
  traceback : Json := .list []

namespace CodeFault

/-- What the message of an error says. -/
def message (f : CodeFault) : Text := f.name.shown ++ ": " ++ f.value.shown

/-- The fault of a unit that took longer than it may. -/
def ofTimeout (seconds : Float) : CodeFault :=
  ⟨.text "ExecutionTimeout",
    .text ("Execution did not finish within " ++ Text.ofFloatSix seconds ++ " seconds"), .list []⟩

/-- The lines of a traceback, none in place of a value that does not count as present. -/
def tracebackOrNone (f : CodeFault) : Json :=
  if f.traceback.isPresent then f.traceback else .list []

end CodeFault

/-- Why a step of a run did not complete. -/
inductive Failure
  /-- The configuration is not complete. -/
  | config (fault : ConfigFault)
  /-- The source is not a document of its format. -/
  | document (fault : DocumentFault)
  /-- The source could not be read. -/
  | unreadable (fault : FileFault)
  /-- The kernel could not be reached. -/
  | connect (kernel reason : Text)
  /-- The connection to the kernel was lost. -/
  | transport (fault : TransportFault)
  /-- The run was cancelled. -/
  | cancelled (point : CancelPoint)
  /-- The code failed; the result holds the output up to then. -/
  | code (fault : CodeFault) (result : UnitResult)
  /-- The code took too long; the result holds the output up to then. -/
  | timeout (seconds : Float) (result : UnitResult)
  /-- An error of the kernel, or of whoever receives the lines of the run. -/
  | kernel (error : KernelError)
  /-- A file operation failed. -/
  | file (fault : FileFault)
  /-- A text could not be encoded. -/
  | encoding (fault : EncodeFault)
  /-- A report could not be written as JSON. -/
  | report (fault : EncodeFault)
  /-- An artifact could not be saved. -/
  | save (fault : SaveFault)
  /-- A message of the kernel had an unexpected shape. -/
  | misfit (misfit : Misfit)
  /-- A time could not be counted in milliseconds. -/
  | clock (fault : WholeFault)
  /-- A value of a named model would not be valid. -/
  | invalid (model : Text) (complaints : List Complaint)

namespace Failure

/-- What the message of a failure says. -/
def message : Failure → Text
  | .config fault => fault.message
  | .document fault => fault.message
  | .unreadable fault => fault.message
  | .connect k reason => "Could not connect to kernel '" ++ k ++ "': " ++ reason
  | .transport fault => fault.message
  | .cancelled point => point.message
  | .code fault _ => fault.message
  | .timeout seconds _ => (CodeFault.ofTimeout seconds).message
  | .kernel error => error.message
  | .file fault => fault.message
  | .encoding fault => fault.message
  | .report fault => "Error serializing to JSON: UnicodeEncodeError: " ++ fault.message
  | .save fault => fault.message
  | .misfit m => m.message
  | .clock fault => fault.message
  | .invalid model es => Complaint.summary model es

/-- The name of the kind of a misfit. -/
def misfitName : Misfit → Text
  | .missingKey _ => "KeyError"
  | .noOperation .. => "AttributeError"
  | _ => "TypeError"

/-- The name of the kind of a file fault. -/
def fileName : FileFault → Text
  | .os .missing _ => "FileNotFoundError"
  | .os .exists _ => "FileExistsError"
  | .os .notDirectory _ => "NotADirectoryError"
  | .os .isDirectory _ => "IsADirectoryError"
  | .os .nameTooLong _ => "OSError"
  | .null => "ValueError"
  | .encoding _ => "UnicodeEncodeError"

/-- The name of the kind of a failed decoding. -/
def base64Name : Base64.Fault → Text
  | .notAscii => "ValueError"
  | _ => "Error"

/-- The name of the kind of a breakdown on the way from an older version. -/
def breakdownName : Breakdown → Text
  | .incomplete .. => "ValidationError"
  | .unknownFirstCell => "UnboundLocalError"
  | .minorVersion => "AssertionError"
  | .headingLevel => "OverflowError"
  | .headingSize => "MemoryError"
  | .promptNumber => "OverflowError"

/-- The name of the kind of a failure. -/
def name : Failure → Text
  | .config _ => "ConfigError"
  | .document (.format _) => "FormatError"
  | .document (.structural _) => "StructureError"
  | .document (.upgrade breakdown) => breakdownName breakdown
  | .document (.tooManyDigits _) => "ValueError"
  | .document (.misfit m) => misfitName m
  | .unreadable _ => "SourceReadError"
  | .connect .. => "ConnectError"
  | .transport _ => "TransportError"
  | .cancelled _ => "RunCancelled"
  | .code .. => "FaultError"
  | .timeout .. => "ExecutionTimeoutError"
  | .kernel error => error.kind.name
  | .file fault => fileName fault
  | .encoding _ => "UnicodeEncodeError"
  | .report _ => "PydanticSerializationError"
  | .save (.file fault) => fileName fault
  | .save (.base64 fault) => base64Name fault
  | .save (.encoding _) => "UnicodeEncodeError"
  | .save (.misfit m) => misfitName m
  | .misfit m => misfitName m
  | .clock .infinite => "OverflowError"
  | .clock .notANumber => "ValueError"
  | .invalid .. => "ValidationError"

/-- Whether a failure is one of the program and not an interruption by the user. -/
def isOrdinary : Failure → Bool
  | .kernel error => error.isOrdinary
  | _ => true

end Failure

end KernelJob
