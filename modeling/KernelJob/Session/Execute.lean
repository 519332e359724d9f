import KernelJob.Output.Collector
import KernelJob.Session.Release
import KernelJob.Text.Escapes

/-! # Executing a unit

A unit is submitted, and then messages are asked for until the kernel is idle again. Output goes to
a collector line by line. Between messages the session looks for cancellation, for the deadline of
the unit, and, after an empty wait, whether the kernel is still alive.
-/

namespace KernelJob.Session

open KernelJob.Action

/-- What does not change while a unit is executed. -/
structure Execution where
  kernel : Kernel
  sink : Sink
  /-- The number of the unit. -/
  unit : Int
  /-- The name of the request. -/
  request : Text
  /-- The clock when the unit was submitted. -/
  start : Float
  /-- The seconds that the unit may take. -/
  deadline : Option Float

/-- What has come of a unit so far. -/
structure Captured where
  collector : Collector
  fault : Option CodeFault := none

/-- The milliseconds between two times. -/
def elapsedMilliseconds (start now : Float) : Except WholeFault Int :=
  wholePart ((now - start) * 1000.0)

/-- The result of a unit from what was captured. -/
def resultOf (unit : Int) (elapsed : Int) (c : Captured) : UnitResult where
  sequenceNumber := unit
  output := c.collector.text
  truncated := c.collector.truncated
  elapsed := elapsed
  outcome := if c.fault.isSome then .fault else .success
  error := match c.fault with
    | some f => f.message
    | none => []

/-- The result of a unit at the time that the clock shows. -/
def makeResult (x : Execution) (c : Captured) : Action UnitResult := do
  let w ← world
  match elapsedMilliseconds x.start w.clock with
  | .ok ms => return resultOf x.unit ms c
  | .error fault => fail (.clock fault)

/-! ## Output -/

/-- Gives the collector some output and the receiver the lines that were kept of it. -/
def collect (x : Execution) (step : OutputStep) (c : Captured) : Action Captured := do
  let collector := c.collector.step step
  emitAll x.sink (collector.since c.collector)
  return { c with collector := collector }

/-- Saves what can be saved of an output, and gives the name of the file. -/
def saveArtifact (x : Execution) (data : Json) : Action (Option Text) := do
  let w ← world
  match w.handle.artifacts with
  | none => return none
  | some store =>
    match store.save w.files x.unit data with
    | (store, files, result) =>
      change fun w => { w with files := files, handle := { w.handle with artifacts := some store } }
      match result with
      | .ok none => return none
      | .ok (some path) =>
        record .debug .artifacts ("Saved artifact " ++ path.text)
        return some path.name
      | .error fault =>
        if fault.isRecoverable then
          record .warning .session ("Could not save output of unit " ++ Text.ofInt x.unit ++
            " as artifact: " ++ fault.message)
          return none
        else fail (.save fault)

/-- Collects the plain text of an output. -/
def collectPlain (x : Execution) (data : Json) (c : Captured) : Action Captured := do
  let plain ← ofExcept ((data.fieldOr "text/plain" .null).mapError Failure.misfit)
  if plain.isPresent then
    match ← ofExcept (plain.joined.mapError Failure.misfit) with
    | .text t => collect x (.block t) c
    | v =>
      let _ ← collect x .flush c
      fail (.misfit (.noOperation v.kindName "splitlines"))
  else return c

/-- Collects an output that comes in several types: a saved file, or else its plain text. -/
def collectRich (x : Execution) (content : Json) (c : Captured) : Action Captured := do
  let data ← ofExcept ((content.fieldOr "data" (.object [])).mapError Failure.misfit)
  match ← saveArtifact x data with
  | some name => collect x (.block ("[saved " ++ name ++ "]")) c
  | none => collectPlain x data c

/-- Collects the lines of a traceback without their colours. -/
def collectTraceback (x : Execution) : List Json → Captured → Action Captured
  | [], c => return c
  | .text t :: items, c => do
    let c ← collect x (.block (Text.stripColours t)) c
    collectTraceback x items c
  | v :: _, _ => fail (.misfit (.notScannable v.kindName))

/-- The error that the content of a message reports. -/
def faultOf (content : Json) : Except Misfit CodeFault := do
  let name ← content.fieldOr "ename" (.text "Error")
  let value ← content.fieldOr "evalue" (.text [])
  let traceback ← content.fieldOr "traceback" (.list [])
  return ⟨name, value, traceback⟩

/-! ## Messages -/

/-- What a message means for the execution. -/
inductive Progressed
  /-- It goes on. -/
  | more (captured : Captured)
  /-- The kernel is idle again. -/
  | idle (captured : Captured)

/-- Takes a message about the request into account. -/
def handleOwn (x : Execution) (type content : Json) (c : Captured) : Action Progressed := do
  if type.isText "stream" then
    match ← ofExcept ((content.fieldOr "text" (.text [])).mapError Failure.misfit) with
    | .text t => return .more (← collect x (.text t) c)
    | v => fail (.misfit (.notAppendable v.kindName))
  else if type.isText "execute_result" || type.isText "display_data" then
    return .more (← collectRich x content c)
  else if type.isText "error" then
    let fault ← ofExcept ((faultOf content).mapError Failure.misfit)
    let items ← ofExcept ((fault.traceback.items).mapError Failure.misfit)
    return .more (← collectTraceback x items { c with fault := some fault })
  else if type.isText "status" then
    let state ← ofExcept ((content.fieldOr "execution_state" .null).mapError Failure.misfit)
    if state.isText "idle" then return .idle (← collect x .flush c) else return .more c
  else return .more c

/-- Whether a message is about a request. -/
def isAbout (request : Text) (message : Json) : Except Misfit Bool := do
  let parent ← message.fieldOr "parent_header" (.object [])
  let id ← parent.fieldOr "msg_id" .null
  return id.isText request

/-- Takes a message into account; those about other requests are passed over. -/
def handleMessage (x : Execution) (message : Json) (c : Captured) : Action Progressed := do
  if ← ofExcept ((isAbout x.request message).mapError Failure.misfit) then
    let header ← ofExcept ((message.field "header").mapError Failure.misfit)
    let type ← ofExcept ((header.field "msg_type").mapError Failure.misfit)
    let content ← ofExcept ((message.fieldOr "content" (.object [])).mapError Failure.misfit)
    handleOwn x type content c
  else return .more c

/-! ## Waiting -/

/-- Ends an execution that was cancelled or has taken too long. -/
def checkTurn (x : Execution) (c : Captured) : Action Unit := do
  let w ← world
  if w.cancelled then
    interrupt x.kernel
    fail (.cancelled (.duringUnit x.unit))
  match x.deadline with
  | none => return
  | some seconds =>
    if seconds < w.clock - x.start then
      interrupt x.kernel
      let c ← collect x .flush c
      let result ← makeResult x { c with fault := some (.ofTimeout seconds) }
      fail (.timeout seconds result)
    else return

/-- Ends an execution whose kernel is found dead. -/
def checkAlive : Action Unit := do
  let w ← world
  if w.isAlive then return else fail (.transport (.died w.handle.config.kernel))

/-- Lets time pass. -/
def advance (seconds : Float) : Action Unit :=
  change fun w => { w with clock := w.clock + seconds }

/-- What a poll delivers: a message, if there is one. -/
def deliver (x : Execution) : Delivery → Action (Option Json)
  | .message toRequest => return some (toRequest x.request)
  | .empty => return none
  | .death said => do
    change fun w => { w with alive := said }
    return none
  | .cancel => do
    cancel
    return none
  | .failure e => if e.isConnectionLoss then fail (.transport (.lost e)) else fail (.kernel e)

/-- Asks for a message. -/
def receive (x : Execution) (p : Poll) : Action (Option Json) := do
  change (·.push (.poll p))
  match p.advance with
  | some seconds => advance seconds
  | none => pure ()
  deliver x p.delivery

/-- Waits on for a kernel that has nothing more to say, and dies after a number of waits. -/
def drainSilence (x : Execution) (c : Captured) : Nat → Action Captured
  | 0 => do
    checkTurn x c
    advance (x.kernel.pause 0)
    change fun w => { w with alive := false }
    checkAlive
    return c
  | waits + 1 => do
    checkTurn x c
    advance (x.kernel.pause (waits + 1))
    checkAlive
    drainSilence x c waits

/-- Asks for messages until the kernel is idle again. -/
def drain (x : Execution) (c : Captured) : List Poll → Action Captured
  | [] => drainSilence x c x.kernel.patience
  | p :: ps => do
    checkTurn x c
    match ← receive x p with
    | none =>
      checkAlive
      drain x c ps
    | some message =>
      match ← handleMessage x message c with
      | .idle c => return c
      | .more c => drain x c ps

/-! ## Execution -/

/-- Submits code and gives the name of the request and the polls of its answer. A request that fails
counts as one. -/
def submit (k : Kernel) (source : Text) : Action (Text × List Poll) := do
  call (.execute source)
  change fun w => { w with requests := w.requests + 1 }
  let w ← world
  let response := k.responseTo w.requests source
  match response.error with
  | some e => if e.isConnectionLoss then fail (.transport (.notSent e)) else fail (.kernel e)
  | none => pure ()
  return ("msg-" ++ Text.ofNat w.requests, response.allPolls)

/-- Submits a unit and captures what comes of it. -/
def runUnit (k : Kernel) (sink : Sink) (unit : CodeUnit) (start : Float) :
    Action (Execution × Captured) := do
  let (request, polls) ← submit k unit.source
  let config := (← world).handle.config
  let x : Execution := ⟨k, sink, unit.sequenceNumber, request, start, config.executionTimeout⟩
  let c ← drain x { collector := { limit := config.maxResults } } polls
  return (x, c)

/-- Executes a unit on the kernel of the handle in use. -/
def execute (k : Kernel) (sink : Sink) (task : Text) (unit : CodeUnit) : Action UnitResult := do
  let w ← world
  if w.handle.state = .connected ∨ w.handle.state = .executing then
    record .debug .session (task ++ ":Executing unit " ++ Text.ofInt unit.sequenceNumber ++
      " on '" ++
      w.handle.config.kernel ++ "'")
    changeHandle fun h => { h with state := .executing }
    let outcome ← attempt (runUnit k sink unit w.clock)
    changeHandle fun h => if h.state = .executing then { h with state := .connected } else h
    let (x, c) ← ofExcept outcome
    let result ← makeResult x c
    match c.fault with
    | some fault => fail (.code fault result)
    | none => return result
  else fail (.transport (.notConnected w.handle.state))

end KernelJob.Session
