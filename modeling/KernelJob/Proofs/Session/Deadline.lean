import KernelJob.Proofs.Session.Answer
import KernelJob.Proofs.Session.CaughtUp
import KernelJob.Proofs.Session.Unhurried

/-! # The deadline of a unit

A unit may take so many seconds. At the first turn of the wait at which more have passed, in a run
that is not cancelled, the kernel is interrupted if it was started here, and the unit fails with
what was captured of it by then. If there is no such turn, the deadline makes no difference.

* **`Answer.overrunBetween`** — how a unit fails that has taken too long, by what its kernel has
  answered by then.
* **`Session.turn?`** — the turns of the wait for a unit.
* **`Session.Overrun`** — a unit that has ended at a turn because of its deadline.
* **`Session.execute_deadline`** — the first turn that is overdue ends a unit so, and without such a
  turn the unit is executed as if it had no deadline. -/

namespace KernelJob

/-- Whether a number is finite. -/
def Binary.IsFinite : Binary → Prop
  | .finite _ _ _ => True
  | _ => False

/-- A finite number has a whole part. -/
theorem wholePart_of_isFinite {y : Float} (h : (Binary.ofFloat y).IsFinite) :
    ∃ n, wholePart y = .ok n := by
  unfold wholePart
  cases hy : Binary.ofFloat y with
  | finite negative mantissa exponent => exact ⟨_, rfl⟩
  | nan =>
    rw [hy] at h
    exact h.elim
  | infinite negative =>
    rw [hy] at h
    exact h.elim

namespace Answer

/-- **The result of a unit that has taken too long**: the first lines of its output, also of an
error that its code has reported, and the fault of the deadline. -/
def overrun (a : Answer) (seconds : Float) (elapsed : Int) : UnitResult :=
  { a.result elapsed with
    outcome := .fault
    error := (CodeFault.ofTimeout seconds).message }

/-- **How such a unit fails** if it was submitted and ended at these times: a time that no clock can
measure is a failure of its own. -/
def overrunBetween (a : Answer) (seconds start now : Float) : Failure :=
  match Session.elapsedMilliseconds start now with
  | .ok elapsed => .timeout seconds (a.overrun seconds elapsed)
  | .error fault => .clock fault

/-- A time that is finite in milliseconds can be measured. -/
theorem overrunBetween_of_isFinite (a : Answer) (seconds : Float) {start now : Float}
    (h : (Binary.ofFloat ((now - start) * 1000.0)).IsFinite) :
    ∃ elapsed, Session.elapsedMilliseconds start now = .ok elapsed ∧
      a.overrunBetween seconds start now = .timeout seconds (a.overrun seconds elapsed) := by
  obtain ⟨elapsed, helapsed⟩ := wholePart_of_isFinite h
  have hmeasured : Session.elapsedMilliseconds start now = .ok elapsed := helapsed
  refine ⟨elapsed, hmeasured, ?_⟩
  rw [overrunBetween, hmeasured]

end Answer

namespace Session

open KernelJob.Action

variable {x : Execution} {w₀ w v : World} {limit : Int} {before : List Poll} {t : Turn}

/-! ## The end of a wait -/

/-- **A world after an interruption**: if the kernel was started here, it was asked to interrupt its
work, and nothing else has happened but log records. -/
structure AfterInterrupt (w v : World) : Prop where
  calls : v.calls = w.calls ++ w.handle.interruptCalls
  polls : v.polls = w.polls
  lines : v.lines = w.lines
  clock : v.clock = w.clock

/-- A log record may follow. -/
theorem AfterInterrupt.record (h : AfterInterrupt w v) (r : LogRecord) :
    AfterInterrupt w (v.push (.record r)) where
  calls := (World.calls_push_of_none v rfl).trans h.calls
  polls := (World.polls_push_of_none v rfl).trans h.polls
  lines := (World.lines_push_of_none v rfl).trans h.lines
  clock := h.clock

/-- An interruption that fails at most with an ordinary error goes on. -/
theorem interrupt_of_ordinary {k : Kernel}
    (h : ∀ e, k.interruptError = some e → e.isOrdinary = true) (w : World) :
    (interrupt k).Ensures w (fun _ => AfterInterrupt w) (fun _ _ => False) := by
  unfold interrupt
  rw [ensures_bind, ensures_world]
  dsimp only
  by_cases howned : w.handle.ownsKernel = true
  · have hasked : AfterInterrupt w (w.push (.call .interruptKernel)) := by
      refine ⟨?_, World.polls_push_of_none w rfl, World.lines_push_of_none w rfl, rfl⟩
      rw [Handle.interruptCalls, if_pos howned]
      exact World.calls_push w (.call .interruptKernel)
    rw [if_pos howned, ensures_bind, ensures_attempt, ensures_bind, ensures_call,
      ensures_raiseKernel]
    cases herror : k.interruptError with
    | none => exact hasked.record _
    | some e =>
      have hordinary : (Failure.kernel e).isOrdinary = true := h e herror
      dsimp only
      rw [if_pos hordinary]
      exact hasked.record _
  · have hunasked : AfterInterrupt w w := by
      refine ⟨?_, rfl, rfl, rfl⟩
      rw [Handle.interruptCalls, if_neg howned, List.append_nil]
    rw [if_neg howned]
    exact hunasked.record _

/-- What was captured, with its open line, makes the result of a unit that has taken too long. -/
theorem resultOf_capturedOf_flush (unit limit elapsed : Int) (ms : List Message)
    (seconds : Float) :
    resultOf unit elapsed
        ⟨((Unlimited.run {} (Message.outputOf ms)).step .flush).limitedTo limit,
          some (.ofTimeout seconds)⟩ =
      (Answer.mk unit limit ms).overrun seconds elapsed := by
  have hflush : (Unlimited.run {} (Message.outputOf ms)).step .flush =
      Unlimited.run {} (Message.outputOf ms ++ [.flush]) := by
    rw [Unlimited.run_append]
    rfl
  have hlines := Unlimited.lines_run_flush (Message.outputOf ms)
  unfold resultOf Answer.overrun Answer.result Answer.lines Unlimited.limitedTo Collector.text
  dsimp only
  rw [hflush, hlines]
  rfl

/-- The open line of what was captured of some messages is given out, if the limit lets it
through. -/
theorem collect_flush_capturedOf {ms : List Message} (hs : x.sink.NeverFails)
    (hlines : w.lines = w₀.lines ++ (capturedOf limit ms).collector.lines) :
    (collect x .flush (capturedOf limit ms)).Ensures w
      (fun c v => c = ⟨((Unlimited.run {} (Message.outputOf ms)).step .flush).limitedTo limit,
          Message.faultIn ms⟩ ∧
        v.lines = w₀.lines ++
          (OutputStep.allLines (Message.outputOf ms)).take limit.toNat ∧ Quiet w v)
      (fun _ _ => False) := by
  have hkept := collect_keeps (E := fun _ _ => False) hs (Unlimited.run {} (Message.outputOf ms))
    (Message.faultIn ms) .flush hlines
  have hquiet := collect_quiet (x := x) .flush (capturedOf limit ms) (Quiet.refl w)
  refine (hkept.and hquiet).mono (fun c v hv => ?_) fun _ _ he => he.1.elim
  obtain ⟨⟨hc, hvlines⟩, hv⟩ := hv
  refine ⟨hc, ?_, hv⟩
  rw [hvlines, hc, ← Unlimited.lines_run_flush, Unlimited.run_append]
  exact rfl

/-- **A world in which a wait was cut off** after some polls: the kernel was interrupted if it was
started here, and the first lines of what the polls have brought were given out. -/
structure CutOff (request : Text) (limit : Int) (w₀ : World) (before : List Poll) (w : World) :
    Prop where
  calls : w.calls = w₀.calls ++ w₀.handle.interruptCalls
  polls : w.polls = w₀.polls ++ before
  lines : w.lines = w₀.lines ++ (OutputStep.allLines (Message.outputOf
    (ownMessages request before))).take limit.toNat

/-- **A turn at which the deadline has passed** cuts the wait off, and the unit fails with what was
captured by then. -/
theorem checkTurn_of_isOverdue (hs : x.sink.NeverFails)
    (hinterrupt : ∀ e, x.kernel.interruptError = some e → e.isOrdinary = true) {seconds : Float}
    (hdeadline : x.deadline = some seconds) (h : CaughtUp x w₀ limit before t)
    (hoverdue : t.IsOverdue x) :
    (checkTurn x t.captured).Ensures t.world (fun _ _ => False) (fun e v =>
      e = (Answer.mk x.unit limit (ownMessages x.request before)).overrunBetween seconds x.start
        t.world.clock ∧ CutOff x.request limit w₀ before v) := by
  obtain ⟨hcancelled, s, hs', hlt⟩ := hoverdue
  obtain rfl : s = seconds := by
    rw [hdeadline] at hs'
    exact (Option.some.inj hs').symm
  unfold checkTurn
  rw [ensures_bind, ensures_world]
  dsimp only
  rw [if_neg (by rw [hcancelled]; decide), hdeadline]
  dsimp only
  rw [if_pos hlt, h.captured]
  refine ((interrupt_of_ordinary hinterrupt t.world).mono (fun _ _ hv => hv)
    fun _ _ he => he.elim).bind fun _ v hv => ?_
  have hlines : v.lines = w₀.lines ++
      (capturedOf limit (ownMessages x.request before)).collector.lines := by
    rw [hv.lines, h.lines, h.captured]
  refine ((collect_flush_capturedOf hs hlines).mono (fun _ _ hu => hu)
    fun _ _ he => he.elim).bind fun c u hu => ?_
  obtain ⟨rfl, hulines, hquiet⟩ := hu
  have hend : CutOff x.request limit w₀ before u := by
    refine ⟨?_, ?_, hulines⟩
    · rw [hquiet.calls, hv.calls, h.calls, h.handle]
    · rw [hquiet.polls, hv.polls, h.polls]
  unfold makeResult Answer.overrunBetween
  rw [ensures_bind, ensures_bind, ensures_world, hquiet.clock, hv.clock]
  cases elapsedMilliseconds x.start t.world.clock with
  | ok elapsed =>
    dsimp only
    rw [resultOf_capturedOf_flush]
    exact ⟨rfl, hend⟩
  | error fault => exact ⟨rfl, hend⟩

/-- A wait ends with a turn that does not begin. -/
theorem Turn.rest_of_checkTurn_error {e : Failure}
    (h : checkTurn x t.captured t.world = (.error e, v)) : t.rest x = (.error e, v) := by
  obtain ⟨polls, waits, c, w⟩ := t
  dsimp only at h
  cases polls with
  | nil =>
    cases waits with
    | zero =>
      show drainSilence x c 0 w = _
      rw [drainSilence, bind_apply, h]
    | succ waits =>
      show drainSilence x c (waits + 1) w = _
      rw [drainSilence, bind_apply, h]
  | cons p ps =>
    show drain x c (p :: ps) w = _
    rw [drain, bind_apply, h]

/-! ## The whole unit -/

/-- What stays the same from one execution of a unit on: its receiver, its request, its start and
its deadline. -/
def executionOf (k : Kernel) (sink : Sink) (unit : CodeUnit) (w : World) : Execution :=
  ⟨k, sink, unit.sequenceNumber, w.nextRequest, w.clock, w.handle.config.executionTimeout⟩

/-- The world in which the execution of a unit has begun. -/
def begun (task : Text) (unit : CodeUnit) (w : World) : World :=
  { w.push (.record ⟨.debug, .session, task ++ ":Executing unit " ++
      Text.ofInt unit.sequenceNumber ++ " on '" ++ w.handle.config.kernel ++ "'"⟩) with
    handle := { w.handle with state := .executing } }

/-- The world in which a unit has been submitted. -/
def submitted (task : Text) (unit : CodeUnit) (w : World) : World :=
  { (begun task unit w).push (.call (.execute unit.source)) with requests := w.requests + 1 }

theorem calls_submitted (task : Text) (unit : CodeUnit) (w : World) :
    (submitted task unit w).calls = w.calls ++ [.execute unit.source] := by
  have hbegun : (begun task unit w).calls = w.calls := World.calls_push_of_none w rfl
  rw [← hbegun]
  exact World.calls_push (begun task unit w) (.call (.execute unit.source))

theorem polls_submitted (task : Text) (unit : CodeUnit) (w : World) :
    (submitted task unit w).polls = w.polls := by
  have hbegun : (begun task unit w).polls = w.polls := World.polls_push_of_none w rfl
  exact (World.polls_push_of_none (begun task unit w) rfl).trans hbegun

theorem lines_submitted (task : Text) (unit : CodeUnit) (w : World) :
    (submitted task unit w).lines = w.lines := by
  have hbegun : (begun task unit w).lines = w.lines := World.lines_push_of_none w rfl
  exact (World.lines_push_of_none (begun task unit w) rfl).trans hbegun

/-- The first turn of the wait for a unit. -/
def firstTurn (k : Kernel) (task : Text) (unit : CodeUnit) (w : World) : Turn :=
  ⟨(k.responseTo (w.requests + 1) unit.source).allPolls, k.patience,
    { collector := { limit := w.handle.config.maxResults } }, submitted task unit w⟩

/-- From there on the unit is waited for. -/
theorem rest_firstTurn (k : Kernel) (sink : Sink) (task : Text) (unit : CodeUnit) (w : World) :
    (firstTurn k task unit w).rest (executionOf k sink unit w) =
      drain (executionOf k sink unit w) { collector := { limit := w.handle.config.maxResults } }
        (k.responseTo (w.requests + 1) unit.source).allPolls (submitted task unit w) :=
  Turn.rest_first (executionOf k sink unit w) _ _ _

/-- **The turns of the wait for a unit**, if it is accepted and the wait goes on for so long. -/
def turn? (k : Kernel) (sink : Sink) (task : Text) (unit : CodeUnit) (w : World) (n : Nat) :
    Option Turn :=
  match (k.responseTo (w.requests + 1) unit.source).error with
  | some _ => none
  | none => (firstTurn k task unit w).later? (executionOf k sink unit w) n

/-- How the wait for a unit ends: at once if it is refused. -/
def waitEnd (k : Kernel) (sink : Sink) (task : Text) (unit : CodeUnit) (w : World) :
    Except Failure Captured × World :=
  match (k.responseTo (w.requests + 1) unit.source).error with
  | some e => (.error (if e.isConnectionLoss then .transport (.notSent e) else .kernel e),
      submitted task unit w)
  | none => (firstTurn k task unit w).rest (executionOf k sink unit w)

/-- What is done when the wait for a unit has ended. -/
def conclude (x : Execution) (r : Except Failure Captured) : Action UnitResult := do
  changeHandle fun h => if h.state = .executing then { h with state := .connected } else h
  let c ← ofExcept r
  let result ← makeResult x c
  match c.fault with
  | some fault => fail (.code fault result)
  | none => return result

/-- Code that is refused fails at once, and counts as a request. -/
theorem submit_of_refused {k : Kernel} {source : Text} {e : KernelError}
    {w : World} (h : (k.responseTo (w.requests + 1) source).error = some e) :
    submit k source w =
      (.error (if e.isConnectionLoss then .transport (.notSent e) else .kernel e),
        { w.push (.call (.execute source)) with requests := w.requests + 1 }) := by
  unfold submit
  simp only [bind_apply, call, change_apply, world_apply]
  rw [World.requests_push, h]
  dsimp only
  by_cases hlost : e.isConnectionLoss = true
  · rw [if_pos hlost, if_pos hlost]
    rfl
  · rw [if_neg hlost, if_neg hlost]
    rfl

/-- A unit is waited for in the world in which it was submitted. -/
theorem runUnit_eq_waitEnd (k : Kernel) (sink : Sink) (task : Text) (unit : CodeUnit) (w : World) :
    runUnit k sink unit w.clock (begun task unit w) =
      ((waitEnd k sink task unit w).1.map (executionOf k sink unit w, ·),
        (waitEnd k sink task unit w).2) := by
  unfold runUnit waitEnd
  rw [bind_apply]
  cases hresponse : (k.responseTo (w.requests + 1) unit.source).error with
  | none =>
    rw [submit_of_accepted (w := begun task unit w) hresponse]
    dsimp only
    rw [rest_firstTurn, ← map_apply]
    rfl
  | some e =>
    rw [submit_of_refused (w := begun task unit w) hresponse]
    rfl

/-- **Executing a unit**: it is submitted and waited for, and its result is made. -/
theorem execute_eq_conclude {k : Kernel} {sink : Sink} {unit : CodeUnit} (task : Text)
    (hw : w.handle.state = .connected) :
    execute k sink task unit w = conclude (executionOf k sink unit w)
      (waitEnd k sink task unit w).1 (waitEnd k sink task unit w).2 := by
  -- an attempt completes, so that the state of the handle is set back in any case
  have hattempt : attempt (runUnit k sink unit w.clock) (begun task unit w) =
      (.ok ((waitEnd k sink task unit w).1.map (executionOf k sink unit w, ·)),
        (waitEnd k sink task unit w).2) := by
    rw [attempt_apply, runUnit_eq_waitEnd]
  unfold execute conclude
  rw [bind_apply, world_apply]
  dsimp only
  rw [if_pos (.inl hw), bind_apply]
  show (changeHandle (fun h => { h with state := .executing }) >>= fun _ => _) _ = _
  rw [bind_apply]
  show (attempt (runUnit k sink unit w.clock) >>= fun _ => _) (begun task unit w) = _
  rw [bind_apply, hattempt]
  dsimp only
  rcases (waitEnd k sink task unit w).1 with e | c
  · rfl
  · rfl

/-! ## Without an overdue turn -/

/-- A result is made without a look at the deadline. -/
theorem heedless_conclude (x : Execution) (r : Except Failure Captured) :
    Heedless (conclude x r) := by
  have hfree : Heedless (changeHandle fun h =>
      if h.state = .executing then { h with state := .connected } else h) := by
    refine heedless_change fun w => ?_
    have hstate : w.unhurried.handle.state = w.handle.state := rfl
    dsimp only
    rw [hstate]
    by_cases hexecuting : w.handle.state = .executing
    · rw [if_pos hexecuting, if_pos hexecuting]
      exact rfl
    · rw [if_neg hexecuting, if_neg hexecuting]
  refine hfree.bind fun _ => ?_
  refine (heedless_ofExcept r).bind fun c => ?_
  refine (heedless_makeResult x c).bind fun result => ?_
  cases c.fault with
  | none => exact heedless_pure result
  | some fault => exact heedless_fail _

/-- **A unit is waited for alike** without a deadline if no turn is overdue. -/
theorem waitEnd_unhurried {k : Kernel} {sink : Sink} {task : Text} {unit : CodeUnit}
    (h : ∀ n t, turn? k sink task unit w n = some t → ¬ t.IsOverdue (executionOf k sink unit w)) :
    waitEnd k sink task unit w.unhurried =
      ((waitEnd k sink task unit w).1, (waitEnd k sink task unit w).2.unhurried) := by
  have hrequests : w.unhurried.requests = w.requests := rfl
  unfold turn? at h
  unfold waitEnd
  rw [hrequests]
  cases hresponse : (k.responseTo (w.requests + 1) unit.source).error with
  | some e => rfl
  | none =>
    rw [hresponse] at h
    dsimp only at h ⊢
    rw [rest_firstTurn, rest_firstTurn]
    exact drain_alike _ _ h

/-- **A unit of which no turn is overdue** is executed as if it had no deadline. -/
theorem execute_unhurried {k : Kernel} {sink : Sink} {task : Text} {unit : CodeUnit}
    (hw : w.handle.state = .connected)
    (h : ∀ n t, turn? k sink task unit w n = some t → ¬ t.IsOverdue (executionOf k sink unit w)) :
    execute k sink task unit w.unhurried =
      ((execute k sink task unit w).1, (execute k sink task unit w).2.unhurried) := by
  have hunhurried : w.unhurried.handle.state = .connected := hw
  rw [execute_eq_conclude task hw, execute_eq_conclude task hunhurried, waitEnd_unhurried h]
  exact heedless_conclude (executionOf k sink unit w) _ _

/-! ## With an overdue turn -/

/-- What a kernel has answered to a unit with some polls. -/
def answerBy (unit : CodeUnit) (w : World) (before : List Poll) : Answer :=
  ⟨unit.sequenceNumber, w.handle.config.maxResults, ownMessages w.nextRequest before⟩

/-- **A unit that has ended at a turn because of its deadline**, after the polls before it. -/
structure Overrun (k : Kernel) (unit : CodeUnit) (w : World) (seconds : Float) (t : Turn)
    (before : List Poll) (r : Except Failure UnitResult × World) : Prop where
  /-- What was not received by the turn is still to come. -/
  answered : (k.responseTo (w.requests + 1) unit.source).allPolls = before ++ t.polls
  /-- The unit has failed with the first lines of what was received, also of the line that was left
  open. -/
  failed : r.1 = .error ((answerBy unit w before).overrunBetween seconds w.clock t.world.clock)
  /-- This is the failure of the deadline if the time is finite in milliseconds. -/
  timely : (Binary.ofFloat ((t.world.clock - w.clock) * 1000.0)).IsFinite →
    ∃ elapsed, elapsedMilliseconds w.clock t.world.clock = .ok elapsed ∧
      r.1 = .error (.timeout seconds ((answerBy unit w before).overrun seconds elapsed))
  /-- No more polls were received. -/
  received : World.pollsSince w r.2 = before
  /-- After the unit was submitted, the kernel was interrupted once if it was started here. -/
  called : World.callsSince w r.2 = .execute unit.source :: w.handle.interruptCalls
  /-- The lines of the result were given out. -/
  given : World.linesSince w r.2 =
    (answerBy unit w before).lines.take w.handle.config.maxResults.toNat

/-- **A wait with an overdue turn** is cut off at the first one. -/
theorem waitEnd_overrun {k : Kernel} {sink : Sink} {task : Text} {unit : CodeUnit}
    {seconds : Float} (hs : sink.NeverFails) (hunsaved : w.handle.artifacts = none)
    (hdeadline : w.handle.config.executionTimeout = some seconds)
    (hinterrupt : ∀ e, k.interruptError = some e → e.isOrdinary = true)
    (hreadable : ∀ p ∈ (k.responseTo (w.requests + 1) unit.source).allPolls,
      p.Readable w.nextRequest) {n : Nat}
    (hturn : turn? k sink task unit w n = some t)
    (hoverdue : t.IsOverdue (executionOf k sink unit w))
    (hfirst : ∀ m < n, ∀ u, turn? k sink task unit w m = some u →
      ¬ u.IsOverdue (executionOf k sink unit w)) :
    ∃ before v, (k.responseTo (w.requests + 1) unit.source).allPolls = before ++ t.polls ∧
      waitEnd k sink task unit w = (.error ((answerBy unit w before).overrunBetween seconds
        w.clock t.world.clock), v) ∧
      CutOff w.nextRequest w.handle.config.maxResults (submitted task unit w) before v := by
  unfold turn? at hturn hfirst
  unfold waitEnd
  cases hresponse : (k.responseTo (w.requests + 1) unit.source).error with
  | some e =>
    rw [hresponse] at hturn
    cases hturn
  | none =>
    rw [hresponse] at hturn hfirst
    dsimp only at hturn hfirst ⊢
    -- the overdue turn has caught up with the polls that were received before it
    have hbegun := CaughtUp.first (executionOf k sink unit w) (submitted task unit w)
      w.handle.config.maxResults (k.responseTo (w.requests + 1) unit.source).allPolls k.patience
    have hsubmitted : (submitted task unit w).handle.artifacts = none := hunsaved
    obtain ⟨before, hpolls, hcaught⟩ := hbegun.later hs hsubmitted hreadable hturn
    rw [List.nil_append] at hcaught
    have hend := checkTurn_of_isOverdue hs hinterrupt hdeadline hcaught hoverdue
    unfold Ensures at hend
    rcases hcheck : checkTurn (executionOf k sink unit w) t.captured t.world with ⟨e | _, v⟩
    · rw [hcheck] at hend
      obtain ⟨rfl, hcut⟩ := hend
      refine ⟨before, v, hpolls, ?_, hcut⟩
      rw [Turn.rest_of_later? hturn hfirst, Turn.rest_of_checkTurn_error hcheck]
      rfl
    · rw [hcheck] at hend
      exact hend.elim

/-- **The deadline of a unit.** The first turn of the wait that is overdue ends the unit because of
its deadline. If no turn is overdue, the unit is executed as if it had no deadline: it ends with the
same result or failure, and the world after it is the same in all but its setting of the
deadline. -/
theorem execute_deadline {k : Kernel} {sink : Sink} {unit : CodeUnit} (task : Text)
    {seconds : Float} (hw : w.handle.state = .connected) (hs : sink.NeverFails)
    (hunsaved : w.handle.artifacts = none)
    (hdeadline : w.handle.config.executionTimeout = some seconds)
    (hinterrupt : ∀ e, k.interruptError = some e → e.isOrdinary = true)
    (hreadable : ∀ p ∈ (k.responseTo (w.requests + 1) unit.source).allPolls,
      p.Readable w.nextRequest) :
    (∀ n t, turn? k sink task unit w n = some t → t.IsOverdue (executionOf k sink unit w) →
      (∀ m < n, ∀ u, turn? k sink task unit w m = some u →
        ¬ u.IsOverdue (executionOf k sink unit w)) →
      ∃ before, Overrun k unit w seconds t before (execute k sink task unit w)) ∧
    ((∀ n t, turn? k sink task unit w n = some t →
        ¬ t.IsOverdue (executionOf k sink unit w)) →
      execute k sink task unit w.unhurried =
        ((execute k sink task unit w).1, (execute k sink task unit w).2.unhurried)) := by
  constructor
  · intro n t hturn hoverdue hfirst
    obtain ⟨before, v, hpolls, hend, hcut⟩ :=
      waitEnd_overrun hs hunsaved hdeadline hinterrupt hreadable hturn hoverdue hfirst
    rw [execute_eq_conclude task hw, hend]
    have hcalls : v.calls = w.calls ++ .execute unit.source :: w.handle.interruptCalls := by
      rw [hcut.calls, calls_submitted, List.append_assoc]
      rfl
    have hreceived : v.polls = w.polls ++ before := by rw [hcut.polls, polls_submitted]
    have hgiven : v.lines = w.lines ++
        (answerBy unit w before).lines.take w.handle.config.maxResults.toNat := by
      rw [hcut.lines, lines_submitted]
      rfl
    refine ⟨before, hpolls, rfl, fun hfinite => ?_, World.pollsSince_eq hreceived,
      World.callsSince_eq hcalls, World.linesSince_eq hgiven⟩
    obtain ⟨elapsed, helapsed, htimeout⟩ :=
      (answerBy unit w before).overrunBetween_of_isFinite seconds hfinite
    exact ⟨elapsed, helapsed, congrArg Except.error htimeout⟩
  · exact execute_unhurried hw

/-- A kernel that was started here, has begun a second line and then hangs. It cannot be
interrupted. -/
def hanging : Kernel where
  interruptError := some ⟨.runtime, "no process"⟩
  responses := [{
    code := "1"
    hangs := true
    polls := [⟨none, .message fun request =>
      message request "stream" [("text", .text "step\nwork")]⟩] }]

/-- A connection with a deadline of one second for a unit. -/
def oneSecond : World where
  handle := {
    config := { kernel := "python3", workspace := .ofText "ws", executionTimeout := some 1.0 }
    state := .connected
    manager := some { hasKernel := true } }

/-- After three waits of half a second the unit fails with both lines, also the open one, and the
kernel was asked once to interrupt its work. -/
theorem execute_hanging :
    (execute hanging .ignoring "t" ⟨0, "1", false⟩ oneSecond).1 = .error (.timeout 1.0 {
      sequenceNumber := 0
      output := "step\nwork"
      truncated := false
      elapsed := 1500
      outcome := .fault
      error := (CodeFault.ofTimeout 1.0).message }) ∧
    World.callsSince oneSecond (execute hanging .ignoring "t" ⟨0, "1", false⟩ oneSecond).2 =
      [.execute "1", .interruptKernel] ∧
    World.linesSince oneSecond (execute hanging .ignoring "t" ⟨0, "1", false⟩ oneSecond).2 =
      ([("step" : Text), "work"] : List Text) := by
  have hreadable : ∀ p ∈ (hanging.responseTo (oneSecond.requests + 1) "1").allPolls,
      p.Readable oneSecond.nextRequest := by
    show ∀ p ∈ hanging.responses.flatMap Response.polls, p.Readable oneSecond.nextRequest
    simp only [hanging, List.flatMap_cons, List.flatMap_nil, List.append_nil,
      List.forall_mem_cons]
    refine ⟨?_, fun _ hp => nomatch hp⟩
    rintro toRequest ⟨⟩
    exact ⟨_, rfl, rfl⟩
  have hinterrupt : ∀ e, hanging.interruptError = some e → e.isOrdinary = true := by
    rintro e ⟨⟩
    rfl
  obtain ⟨hdeadline, -⟩ := @execute_deadline oneSecond hanging .ignoring ⟨0, "1", false⟩ "t" 1.0
    rfl (fun _ _ => rfl) rfl rfl hinterrupt hreadable
  -- the turns begin at 0, 0, 0.5, 1 and 1.5 seconds
  have hclock : (turn? hanging .ignoring "t" ⟨0, "1", false⟩ oneSecond 4).map
      (fun t => (t.polls.length, t.world.cancelled, t.world.clock)) = some (0, false, 1.5) := rfl
  obtain ⟨t, ht, hbegins⟩ := Option.map_eq_some_iff.mp hclock
  obtain ⟨hleft, hbegins⟩ := Prod.mk.inj hbegins
  obtain ⟨hcancelled, hnow⟩ := Prod.mk.inj hbegins
  have hoverdue : t.IsOverdue (executionOf hanging .ignoring ⟨0, "1", false⟩ oneSecond) := by
    refine ⟨hcancelled, 1.0, rfl, ?_⟩
    rw [hnow]
    decide +kernel
  have hearlier : ∀ m < 4, ∀ u, turn? hanging .ignoring "t" ⟨0, "1", false⟩ oneSecond m = some u →
      ¬ u.IsOverdue (executionOf hanging .ignoring ⟨0, "1", false⟩ oneSecond) := by
    have hbefore : ∀ m < 4, (turn? hanging .ignoring "t" ⟨0, "1", false⟩ oneSecond m).all
        (fun u => !decide (1.0 < u.world.clock - 0.0)) = true := by decide +kernel
    rintro m hm u hu ⟨-, seconds, hseconds, hlt⟩
    obtain rfl : (1.0 : Float) = seconds := Option.some.inj hseconds
    have hnot := hbefore m hm
    rw [hu, Option.all_some, Bool.not_eq_true', decide_eq_false_iff_not] at hnot
    exact hnot hlt
  obtain ⟨before, hend⟩ := hdeadline 4 t ht hoverdue hearlier
  have hbefore : before = hanging.responses.flatMap Response.polls := by
    have hpolls := hend.answered
    rw [List.length_eq_zero_iff.mp hleft, List.append_nil] at hpolls
    exact hpolls.symm
  refine ⟨?_, hend.called, ?_⟩
  · rw [hend.failed, hbefore, hnow]
    rfl
  · rw [hend.given, hbefore]
    rfl

end Session

end KernelJob
