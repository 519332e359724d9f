import KernelJob.Text.Basic

/-! # Errors of a kernel

The errors that talking to a kernel may raise, by kind. The kind decides what a session makes of an
error: which ones mean that the kernel is unknown, not ready in time, or out of reach.
-/

namespace KernelJob

/-- The kind of an error that talking to a kernel raises. -/
inductive KernelErrorKind
  /-- Something went wrong in the kernel's client. -/
  | runtime
  /-- The kernel did not answer in time. -/
  | timeout
  /-- The operating system reported an error. -/
  | system
  /-- The connection was refused. -/
  | refused
  /-- A value was not acceptable. -/
  | value
  /-- The user interrupted the program. -/
  | interrupt
  /-- There is no kernel of that name. -/
  | unknownKernel
  /-- A socket reported an error. -/
  | socket
deriving DecidableEq, Repr

/-- The name of a kind in messages. -/
def KernelErrorKind.name : KernelErrorKind → Text
  | .runtime => "RuntimeError"
  | .timeout => "TimeoutError"
  | .system => "OSError"
  | .refused => "ConnectionRefusedError"
  | .value => "ValueError"
  | .interrupt => "KeyboardInterrupt"
  | .unknownKernel => "NoSuchKernel"
  | .socket => "ZMQError"

/-- The kind with some name. -/
def KernelErrorKind.ofName? (t : Text) : Option KernelErrorKind :=
  [runtime, timeout, system, refused, value, interrupt, unknownKernel, socket].find? (·.name == t)

/-- An error that talking to a kernel raises. -/
structure KernelError where
  kind : KernelErrorKind
  detail : Text
deriving DecidableEq, Repr

namespace KernelError

/-- What the message of an error says. -/
def message (e : KernelError) : Text :=
  if e.kind = .unknownKernel then "No such kernel named " ++ e.detail else e.detail

/-- Whether an error is one of the program and not an interruption by the user. -/
def isOrdinary (e : KernelError) : Bool := e.kind != .interrupt

/-- Whether an error means that the connection to the kernel is gone. -/
def isConnectionLoss (e : KernelError) : Bool := e.kind == .socket || e.kind == .runtime

end KernelError

end KernelJob
