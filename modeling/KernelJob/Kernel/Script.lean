import KernelJob.Json.Basic
import KernelJob.Kernel.Error

/-! # Kernels

A kernel is known by what it does: which names it goes by, which of its operations fail, and what it
answers to each piece of code. An answer is a list of polls, one for each time that its messages are
asked for.
-/

namespace KernelJob

/-- Whether a kernel is alive, as far as it can be told. -/
structure Liveness where
  /-- What the manager says that started the kernel. -/
  manager : Bool
  /-- What a client says that is connected to the kernel. -/
  client : Bool
deriving DecidableEq, Repr

/-- A kernel of which the manager and the client say the same. -/
instance : Coe Bool Liveness := ⟨fun alive => ⟨alive, alive⟩⟩

/-- What asking for a message brings. -/
inductive Delivery
  /-- A message; it may name the request that it answers. -/
  | message (toRequest : Text → Json)
  /-- No message within the interval. -/
  | empty
  /-- No message, and from now on something else is said of the kernel: that it has died, unless one
  of those who are asked has not noticed. -/
  | death (said : Liveness := false)
  /-- No message, and meanwhile the run was cancelled. -/
  | cancel
  /-- An error. -/
  | failure (error : KernelError)

/-- One time that a message is asked for. -/
structure Poll where
  /-- The seconds that pass first. -/
  advance : Option Float := none
  delivery : Delivery

/-- What a kernel does with one piece of code. -/
structure Response where
  code : Text
  polls : List Poll := []
  /-- Whether the message is missing that the kernel is idle again. -/
  hangs : Bool := false
  /-- The error with which the request itself fails. -/
  error : Option KernelError := none

/-- The seconds that a single wait for a message takes. -/
def Kernel.pollInterval : Float := 0.5

/-- What a kernel does. -/
structure Kernel where
  /-- The names of the kernels that can be started. -/
  known : List Text := ["python3"]
  loadError : Option KernelError := none
  startError : Option KernelError := none
  channelsError : Option KernelError := none
  readyError : Option KernelError := none
  stopError : Option KernelError := none
  shutdownError : Option KernelError := none
  cleanupError : Option KernelError := none
  interruptError : Option KernelError := none
  /-- Whether the run is cancelled while the kernel gets ready. -/
  cancelsOnReady : Bool := false
  responses : List Response := []
  /-- The responses to the request of some number only; they come before the others. -/
  ownResponses : Nat → List Response := fun _ => []
  /-- The number of waits after its last message that it lives through in silence. -/
  patience : Nat := 20
  /-- The seconds that a wait takes, by the number of waits that it still lives through then. -/
  pause : Nat → Float := fun _ => Kernel.pollInterval

namespace Kernel

/-- The message that the kernel is idle again after some request. -/
def idleMessage (request : Text) : Json :=
  .object [("header", .object [("msg_type", .text "status")]),
    ("parent_header", .object [("msg_id", .text request)]),
    ("content", .object [("execution_state", .text "idle")])]

/-- What a kernel does with a piece of code in the request of some number: nothing but getting idle,
unless it has a response. -/
def responseTo (k : Kernel) (number : Nat) (code : Text) : Response :=
  ((k.ownResponses number ++ k.responses).find? (·.code == code)).getD ⟨code, [], false, none⟩

end Kernel

/-- All polls of a response. -/
def Response.allPolls (r : Response) : List Poll :=
  if r.hangs then r.polls else r.polls ++ [⟨none, .message Kernel.idleMessage⟩]

/-- A call to a kernel or its manager. -/
inductive Call
  | newManager (kernel : Text)
  | newClient (file : Text)
  | startKernel (directory : Option Text)
  | managerClient
  | loadConnectionFile
  | startChannels
  | waitForReady (timeout : Float)
  | execute (source : Text)
  | stopChannels
  | interruptKernel
  | shutdownKernel
  | cleanupResources

/-- A call as it is logged. -/
def Call.line : Call → Text
  | .newManager kernel => "new KernelManager " ++ kernel
  | .newClient file => "new Client " ++ file
  | .startKernel none => "km.start_kernel"
  | .startKernel (some directory) => "km.start_kernel cwd=" ++ directory
  | .managerClient => "km.client"
  | .loadConnectionFile => "client.load_connection_file"
  | .startChannels => "client.start_channels"
  | .waitForReady timeout => "client.wait_for_ready " ++ Text.ofFloat timeout
  | .execute _ => "client.execute store_history=True allow_stdin=False"
  | .stopChannels => "client.stop_channels"
  | .interruptKernel => "km.interrupt_kernel"
  | .shutdownKernel => "km.shutdown_kernel now=True"
  | .cleanupResources => "km.cleanup_resources"

/-- The source that a call submits. -/
def Call.source? : Call → Option Text
  | .execute source => some source
  | _ => none

end KernelJob
