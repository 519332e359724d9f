import KernelJob.Failure
import KernelJob.Log

/-! # Actions and what they change

An action takes the world as it is and gives a value or a failure, and the world after it. What an
action does to the outside is kept in the world as a trace of events in order: calls to the kernel,
lines for the receiver of the run, log records, polls, and the moment of cancellation.
-/

namespace KernelJob

/-- What an action does to the outside. -/
inductive Event
  /-- A call to the kernel or its manager. -/
  | call (call : Call)
  /-- A line for the receiver of the run. -/
  | line (line : Text)
  /-- A log record. -/
  | record (record : LogRecord)
  /-- A poll for a message. -/
  | poll (poll : Poll)
  /-- The run is cancelled from now on. -/
  | cancel

namespace Event

/-- The call of an event that is one. -/
def call? : Event → Option Call
  | .call c => some c
  | _ => none

/-- The line of an event that is one. -/
def line? : Event → Option Text
  | .line l => some l
  | _ => none

/-- The record of an event that is one. -/
def record? : Event → Option LogRecord
  | .record r => some r
  | _ => none

end Event

/-- The manager of a kernel that was started here. -/
structure Manager where
  /-- Whether its kernel has been started and not shut down. -/
  hasKernel : Bool := false
deriving DecidableEq, Repr

/-- The connection to one kernel. -/
structure Handle where
  config : RunConfig
  state : HandleState := .created
  /-- The manager, if the kernel was started here. -/
  manager : Option Manager := none
  /-- Whether there is a client. -/
  hasClient : Bool := false
  /-- Where artifacts are saved, if they are. -/
  artifacts : Option ArtifactStore := none

namespace Handle

/-- Whether the kernel was started here. -/
def ownsKernel (h : Handle) : Bool := h.manager.isSome

/-- Whether the kernel is alive: a kernel that was started here has a manager to ask, of any other
the client is asked. -/
def findsAlive (h : Handle) (said : Liveness) : Bool :=
  match h.manager with
  | some _ => said.manager
  | none => said.client

/-- A handle as it stands in messages. -/
def display (h : Handle) : Text :=
  "InterpreterHandle(kernel=" ++ h.config.kernel.quoted ++ ", state=" ++ h.state.name ++ ")"

end Handle

/-- The state of a run. -/
inductive RunState
  | configured
  | connecting
  | running
  | finalizing
  | done
deriving DecidableEq, Repr

/-- The name of the state of a run. -/
def RunState.name : RunState → Text
  | .configured => "configured"
  | .connecting => "connecting"
  | .running => "running"
  | .finalizing => "finalizing"
  | .done => "done"

/-- Everything that the steps of a run can change. -/
structure World where
  /-- The seconds on the clock. -/
  clock : Float := 0.0
  /-- Whether the run is cancelled. -/
  cancelled : Bool := false
  /-- What is said of the life of the kernel. -/
  alive : Liveness := true
  /-- How many requests the kernel has had. -/
  requests : Nat := 0
  files : FileTree := {}
  /-- The handle in use. -/
  handle : Handle
  /-- How far the run has come. -/
  state : RunState := .configured
  /-- What the run has gathered. -/
  progress : Progress := {}
  /-- What has been done to the outside, in order. -/
  trace : List Event := []

namespace World

/-- The calls made, in order. -/
def calls (w : World) : List Call := w.trace.filterMap Event.call?

/-- The lines given out, in order. -/
def lines (w : World) : List Text := w.trace.filterMap Event.line?

/-- The log records, in order. -/
def records (w : World) : List LogRecord := w.trace.filterMap Event.record?

/-- The sources submitted, in order. -/
def submitted (w : World) : List Text := w.calls.filterMap Call.source?

/-- Whether the kernel of the handle in use is found alive. -/
def isAlive (w : World) : Bool := w.handle.findsAlive w.alive

/-- The world with one more event. -/
def push (w : World) (e : Event) : World := { w with trace := w.trace ++ [e] }

end World

/-- What the receiver of lines does with one. -/
structure Reaction where
  /-- Whether it cancels the run. -/
  cancels : Bool := false
  /-- The failure with which it ends, if it does. -/
  failure : Option Failure := none

/-- The receiver of the lines of a run: its reaction to a line after those given before. -/
structure Sink where
  react : List Text → Text → Reaction

/-- A receiver that ignores what it is given. -/
def Sink.ignoring : Sink := ⟨fun _ _ => {}⟩

/-- A step: from the world before it to a value or a failure and the world after it. -/
def Action (α : Type) : Type := World → Except Failure α × World

namespace Action

/-- The action that changes nothing and gives a value. -/
def ok {α : Type} (a : α) : Action α := fun w => (.ok a, w)

/-- The action that changes nothing and fails. -/
def fail {α : Type} (f : Failure) : Action α := fun w => (.error f, w)

/-- One action after another; a failure of the first ends both. -/
def andThen {α β : Type} (x : Action α) (f : α → Action β) : Action β := fun w =>
  match x w with
  | (.ok a, w) => f a w
  | (.error e, w) => (.error e, w)

instance : Monad Action where
  pure := ok
  bind := andThen

/-- The outcome of an action as a value. -/
def attempt {α : Type} (x : Action α) : Action (Except Failure α) := fun w =>
  match x w with
  | (r, w) => (.ok r, w)

/-- The world as it is. -/
def world : Action World := fun w => (.ok w, w)

/-- Changes the world. -/
def change (f : World → World) : Action Unit := fun w => (.ok (), f w)

/-- A value or a failure as an action. -/
def ofExcept {α : Type} : Except Failure α → Action α
  | .ok a => ok a
  | .error e => fail e

/-- Fails if there is a kernel error. -/
def raiseKernel : Option KernelError → Action Unit
  | some e => fail (.kernel e)
  | none => ok ()

/-- Makes a call. -/
def call (c : Call) : Action Unit := change (·.push (.call c))

/-- Writes a log record. -/
def record (level : LogLevel) (source : LogSource) (message : Text) : Action Unit :=
  change (·.push (.record ⟨level, source, message⟩))

/-- Cancels the run. -/
def cancel : Action Unit := change fun w => { w with cancelled := true }.push .cancel

/-- Changes the handle in use. -/
def changeHandle (f : Handle → Handle) : Action Unit :=
  change fun w => { w with handle := f w.handle }

/-- Gives a line to the receiver. -/
def emit (sink : Sink) (line : Text) : Action Unit := do
  let w ← world
  let reaction := sink.react w.lines line
  change (·.push (.line line))
  if reaction.cancels then cancel
  match reaction.failure with
  | some e => fail e
  | none => ok ()

/-- Gives lines to the receiver one after the other. -/
def emitAll (sink : Sink) : List Text → Action Unit
  | [] => ok ()
  | line :: lines => do
    emit sink line
    emitAll sink lines

@[simp] theorem pure_apply {α : Type} (a : α) (w : World) :
    (pure a : Action α) w = (.ok a, w) := rfl

@[simp] theorem ok_apply {α : Type} (a : α) (w : World) : (ok a : Action α) w = (.ok a, w) := rfl

@[simp] theorem fail_apply {α : Type} (e : Failure) (w : World) :
    (fail e : Action α) w = (.error e, w) := rfl

theorem bind_apply {α β : Type} (x : Action α) (f : α → Action β) (w : World) :
    (x >>= f) w = match x w with
      | (.ok a, w) => f a w
      | (.error e, w) => (.error e, w) := rfl

instance : LawfulMonad Action :=
  LawfulMonad.mk' Action
    (fun x => by
      funext w
      change (match x w with
        | (.ok a, w) => (.ok a, w)
        | (.error e, w) => (.error e, w)) = x w
      rcases x w with ⟨_ | _, _⟩ <;> rfl)
    (fun _ _ => rfl)
    (fun x f g => by
      funext w
      simp only [bind_apply]
      rcases x w with ⟨_ | _, _⟩ <;> rfl)

@[simp] theorem change_apply (f : World → World) (w : World) : change f w = (.ok (), f w) := rfl

@[simp] theorem world_apply (w : World) : world w = (.ok w, w) := rfl

end Action

end KernelJob
