import KernelJob.Proofs.Output.Unlimited
import KernelJob.Proofs.Session.Capture

/-! # The answer to a unit

What executing a unit gives depends on nothing but the messages about it. Messages about other
requests, waits without a message and whatever follows the message that the kernel is idle again
make no difference, wherever they stand.

* **`Session.Waiting`** — the world while a unit is waited for: the polls received so far, and the
  output collected from them.
* **`Session.drain_ensures`** — the wait ends with the message that the kernel is idle again, and
  what was captured is what the messages about the request say.
* **`Session.execute_eq_answer`** — executing a unit gives the outcome of its answer. -/

namespace KernelJob

/-- The name of the request that is made next. -/
def World.nextRequest (w : World) : Text := "msg-" ++ Text.ofNat (w.requests + 1)

namespace Session

open KernelJob.Action

/-- **A world in which a unit is waited for**: since `w₀` the polls `ps` were received, and of the
output that `o` has collected the lines that the limit lets through were given to the receiver. -/
structure Waiting (w₀ : World) (limit : Int) (ps : List Poll) (o : Unlimited) (w : World) :
    Prop where
  handle : w.handle = w₀.handle
  cancelled : w.cancelled = w₀.cancelled
  alive : w.alive = w₀.alive
  clock : w.clock = clockAfter w₀.clock ps
  polls : w.polls = w₀.polls ++ ps
  lines : w.lines = w₀.lines ++ (o.limitedTo limit).lines

variable {x : Execution} {w₀ w : World} {limit : Int} {ps : List Poll} {o : Unlimited}
  {fault : Option CodeFault}

namespace Waiting

/-- A poll is received, and the clock goes on. -/
theorem poll (h : Waiting w₀ limit ps o w) (p : Poll) :
    Waiting w₀ limit (ps ++ [p]) o
      { w.push (.poll p) with clock := p.clockAfter w.clock } where
  handle := h.handle
  cancelled := h.cancelled
  alive := h.alive
  clock := by
    rw [clockAfter, List.foldl_append, List.foldl_cons, List.foldl_nil, h.clock]
    rfl
  polls := by
    show (w.push (.poll p)).polls = _
    rw [World.polls_push, h.polls, List.append_assoc]
    rfl
  lines := by
    show (w.push (.poll p)).lines = _
    rw [World.lines_push, h.lines]
    exact List.append_nil _

end Waiting

/-! ## Output -/

/-- Output is collected, and the lines that the limit lets through are given to the receiver. -/
theorem collect_waiting (hs : x.sink.Passive) (step : OutputStep) (h : Waiting w₀ limit ps o w) :
    (collect x step ⟨o.limitedTo limit, fault⟩).Ensures w
      (fun c w' => c = ⟨(o.step step).limitedTo limit, fault⟩ ∧
        Waiting w₀ limit ps (o.step step) w')
      (fun _ _ => False) := by
  have hsince := Unlimited.since_limitedTo limit (Unlimited.lines_prefix_step o step)
  unfold collect
  dsimp only
  rw [Unlimited.step_limitedTo, ensures_bind, Ensures, emitAll_of_passive hs]
  refine ⟨rfl, ⟨h.handle, h.cancelled, h.alive, h.clock, ?_, ?_⟩⟩
  · -- lines are no polls
    rw [← h.polls, World.polls, World.polls, List.filterMap_append, List.filterMap_map]
    simp [Function.comp_def, Event.poll?]
  · rw [hsince, ← List.append_assoc, ← h.lines, World.lines, World.lines, List.filterMap_append,
      List.filterMap_map]
    simp [Function.comp_def, Event.line?]

/-- The same for several steps of output. -/
theorem collectAll_waiting (hs : x.sink.Passive) (steps : List OutputStep)
    (h : Waiting w₀ limit ps o w) :
    (collectAll x steps ⟨o.limitedTo limit, fault⟩).Ensures w
      (fun c w' => c = ⟨(o.run steps).limitedTo limit, fault⟩ ∧
        Waiting w₀ limit ps (o.run steps) w')
      (fun _ _ => False) := by
  induction steps generalizing o w with
  | nil => exact ⟨rfl, h⟩
  | cons step steps ih =>
    unfold collectAll
    refine (collect_waiting hs step h).bind fun c w' hc => ?_
    obtain ⟨rfl, hw'⟩ := hc
    exact ih hw'

/-! ## Messages -/

/-- **A message that was taken into account**: what it says has been captured, and the wait goes on
unless the kernel is idle again. -/
structure Heeded (w₀ : World) (limit : Int) (ps : List Poll) (o : Unlimited)
    (fault : Option CodeFault) (m : Message) (r : Progressed) (w : World) : Prop where
  progressed : r = progressed m.isIdle ⟨(o.run m.steps).limitedTo limit, m.fault?.or fault⟩
  waiting : Waiting w₀ limit ps (o.run m.steps) w

/-- A message about another request is passed over, one about this request is taken into account. -/
theorem handleMessage_waiting (hs : x.sink.Passive) (hartifacts : w₀.handle.artifacts = none)
    {v : Json} {m : Message} (hv : Message.ofJson? v = some m) (hm : m.output?.isSome = true)
    (h : Waiting w₀ limit ps o w) :
    (handleMessage x v ⟨o.limitedTo limit, fault⟩).Ensures w
      (fun r w' => if m.isAbout x.request then Heeded w₀ limit ps o fault m r w'
        else r = .more ⟨o.limitedTo limit, fault⟩ ∧ Waiting w₀ limit ps o w')
      (fun _ _ => False) := by
  have hunsaved : w.handle.artifacts = none := by rw [h.handle, hartifacts]
  rw [Ensures.congr (handleMessage_capture hunsaved hv hm _)]
  split
  · refine (collectAll_waiting hs m.steps h).bind fun c w' hc => ?_
    obtain ⟨rfl, hw'⟩ := hc
    exact ⟨rfl, hw'⟩
  · exact ⟨rfl, h⟩

/-! ## The wait -/

/-- A turn begins if the run is not cancelled and there is no deadline. -/
theorem checkTurn_waiting (hcancelled : w₀.cancelled = false) (hdeadline : x.deadline = none)
    (c : Captured) (h : Waiting w₀ limit ps o w) :
    (checkTurn x c).Ensures w (fun _ w' => w' = w) (fun _ _ => False) := by
  unfold checkTurn
  rw [ensures_bind, ensures_world]
  dsimp only
  rw [if_neg (by rw [h.cancelled, hcancelled]; decide), hdeadline]
  rfl

/-- A poll of a well-formed message brings that message, an empty one brings none. -/
theorem receive_waiting {p : Poll} (hp : p.WellFormed x.request) :
    (receive x p).Ensures w
      (fun r w' => w' = { w.push (.poll p) with clock := p.clockAfter w.clock } ∧
        ((r = none ∧ p.message? x.request = none) ∨
          ∃ v m, r = some v ∧ Message.ofJson? v = some m ∧ m.output?.isSome = true ∧
            p.message? x.request = some m))
      (fun _ _ => False) := by
  rw [Ensures, receive_apply]
  unfold Poll.WellFormed at hp
  unfold Poll.message?
  split at hp
  · rename_i toRequest hdelivery
    obtain ⟨m, hm, hout⟩ := hp
    rw [hdelivery]
    exact ⟨rfl, .inr ⟨_, m, rfl, hm, hout, hm⟩⟩
  · rename_i hdelivery
    rw [hdelivery]
    exact ⟨rfl, .inl ⟨rfl, rfl⟩⟩
  · exact hp.elim

/-- A kernel that is alive is waited for. -/
theorem checkAlive_waiting (halive : w₀.isAlive = true) (h : Waiting w₀ limit ps o w) :
    checkAlive.Ensures w (fun _ w' => w' = w) (fun _ _ => False) := by
  have hfound : w.isAlive = true :=
    (World.isAlive_congr (congrArg Handle.manager h.handle) h.alive).trans halive
  unfold checkAlive
  rw [ensures_bind, ensures_world, if_pos hfound]
  rfl

/-- **What was captured in a wait**: what the messages `ms` say, after the output `o` and the error
`fault`. -/
structure Heard (w₀ : World) (limit : Int) (ps : List Poll) (o : Unlimited)
    (fault : Option CodeFault) (ms : List Message) (c : Captured) (w : World) : Prop where
  captured : c = ⟨(o.run (Message.outputOf ms ++ [.flush])).limitedTo limit,
    (Message.faultIn ms).or fault⟩
  waiting : Waiting w₀ limit ps (o.run (Message.outputOf ms ++ [.flush])) w

/-- What the first message says counts as if it had been said before. -/
theorem Heard.cons {m : Message} {ms : List Message} {c : Captured} (hidle : m.isIdle = false)
    (h : Heard w₀ limit ps (o.run m.steps) (m.fault?.or fault) ms c w) :
    Heard w₀ limit ps o fault (m :: ms) c w := by
  have hsteps := Message.steps_of_not_isIdle hidle
  have hrun : o.run (Message.outputOf (m :: ms) ++ [.flush]) =
      (o.run m.steps).run (Message.outputOf ms ++ [.flush]) := by
    rw [Message.outputOf_cons, List.append_assoc, Unlimited.run_append, hsteps]
  constructor
  · rw [h.captured, hrun, Message.faultIn_cons, Option.or_assoc]
  · rw [hrun]
    exact h.waiting

/-- The message that the kernel is idle again is the last one: it brings nothing besides. -/
theorem Heard.last {m : Message} (hidle : m.isIdle = true)
    (h : Waiting w₀ limit ps (o.run m.steps) w) :
    Heard w₀ limit ps o fault [m] ⟨(o.run m.steps).limitedTo limit, m.fault?.or fault⟩ w := by
  obtain ⟨houtput, hfault⟩ := Message.of_isIdle hidle
  have hsteps := Message.steps_of_isIdle hidle
  have hrun : Message.outputOf [m] ++ [.flush] = m.steps := by
    rw [Message.outputOf_cons, houtput, hsteps]
    rfl
  constructor
  · rw [hrun, Message.faultIn_cons]
    rfl
  · rw [hrun]
    exact h

/-- **The wait for the answer to a unit** ends with the message that the kernel is idle again. What
was captured by then is what the messages about the request say. -/
theorem drain_ensures (hs : x.sink.Passive) (hdeadline : x.deadline = none)
    (hcancelled : w₀.cancelled = false) (halive : w₀.isAlive = true)
    (hartifacts : w₀.handle.artifacts = none) {polls : List Poll}
    (hpolls : ∀ p ∈ polls, p.WellFormed x.request)
    (hidle : ∃ p ∈ polls, p.endsWait x.request = true) (h : Waiting w₀ limit ps o w) :
    (drain x ⟨o.limitedTo limit, fault⟩ polls).Ensures w
      (Heard w₀ limit (ps ++ untilIdle x.request polls) o fault
        (ownMessages x.request (untilIdle x.request polls)))
      (fun _ _ => False) := by
  -- every poll but the last goes on with what has been captured by then
  induction polls generalizing ps o fault w with
  | nil =>
    obtain ⟨p, hp, -⟩ := hidle
    cases hp
  | cons p polls ih =>
    rw [List.forall_mem_cons] at hpolls
    obtain ⟨hp, hpolls⟩ := hpolls
    unfold drain
    refine (checkTurn_waiting hcancelled hdeadline _ h).bind fun _ _ hw => ?_
    subst hw
    refine (receive_waiting hp).bind fun r _ hr => ?_
    obtain ⟨rfl, hr⟩ := hr
    have hpoll := h.poll p
    rcases hr with ⟨rfl, hnone⟩ | ⟨v, m, rfl, hv, hout, hsome⟩
    · -- an empty poll
      have hown : p.own? x.request = none := by rw [Poll.own?, hnone]; rfl
      obtain ⟨huntil, hrest⟩ :=
        untilIdle_cons_of_goesOn (by rw [Poll.endsWait, hown]; rfl) hidle
      refine (checkAlive_waiting halive hpoll).bind fun _ _ hw => ?_
      subst hw
      rw [huntil, ownMessages_cons, hown, List.append_cons]
      exact ih hpolls hrest hpoll
    refine (handleMessage_waiting hs hartifacts hv hout hpoll).bind fun r w' hr => ?_
    by_cases habout : m.isAbout x.request = true
    · rw [if_pos habout] at hr
      have hown : p.own? x.request = some m := by
        rw [Poll.own?, hsome, Option.filter_some, if_pos habout]
      have hend : p.endsWait x.request = m.isIdle := by rw [Poll.endsWait, hown]; rfl
      cases hidle' : m.isIdle with
      | true =>
        have huntil : untilIdle x.request (p :: polls) = [p] := by
          rw [untilIdle, hend, hidle']
          rfl
        have hms : ownMessages x.request [p] = [m] := by
          rw [ownMessages_cons, hown]
          rfl
        have hheeded := hr.progressed
        rw [hidle'] at hheeded
        subst hheeded
        rw [huntil, hms]
        exact .last hidle' hr.waiting
      | false =>
        obtain ⟨huntil, hrest⟩ := untilIdle_cons_of_goesOn (hend.trans hidle') hidle
        have hheeded := hr.progressed
        rw [hidle'] at hheeded
        subst hheeded
        rw [huntil, ownMessages_cons, hown, List.append_cons]
        exact (ih hpolls hrest hr.waiting).mono (fun c w' hc => hc.cons hidle') fun _ _ he => he
    · -- a message about another request
      rw [if_neg habout] at hr
      obtain ⟨rfl, hw'⟩ := hr
      have hown : p.own? x.request = none := by
        rw [Poll.own?, hsome, Option.filter_some, if_neg habout]
      obtain ⟨huntil, hrest⟩ :=
        untilIdle_cons_of_goesOn (by rw [Poll.endsWait, hown]; rfl) hidle
      rw [huntil, ownMessages_cons, hown, List.append_cons]
      exact ih hpolls hrest hw'

/-! ## The whole unit -/

/-- **A kernel that answers a unit**: it is alive, it accepts the unit, and it sends nothing but
well-formed messages, among them the one that it is idle again. Nobody cancels the run, there is no
deadline, and no artifacts are saved. -/
structure Answers (k : Kernel) (unit : CodeUnit) (w : World) : Prop where
  unsaved : w.handle.artifacts = none
  unhurried : w.handle.config.executionTimeout = none
  uncancelled : w.cancelled = false
  alive : w.isAlive = true
  accepted : (k.responseTo (w.requests + 1) unit.source).error = none
  wellFormed : ∀ p ∈ (k.responseTo (w.requests + 1) unit.source).allPolls,
    p.WellFormed w.nextRequest
  idle : ∃ p ∈ (k.responseTo (w.requests + 1) unit.source).allPolls,
    p.endsWait w.nextRequest = true

/-- The polls of the answer of a kernel to a unit: those up to the message that the kernel is idle
again. -/
def heard (k : Kernel) (unit : CodeUnit) (w : World) : List Poll :=
  untilIdle w.nextRequest (k.responseTo (w.requests + 1) unit.source).allPolls

/-- **The answer of a kernel to a unit.** -/
def answer (k : Kernel) (unit : CodeUnit) (w : World) : Answer :=
  ⟨unit.sequenceNumber, w.handle.config.maxResults, ownMessages w.nextRequest (heard k unit w)⟩

/-- Code that is accepted is submitted, and its answer is that of the next request. -/
theorem submit_of_accepted {k : Kernel} {source : Text}
    {w : World} (h : (k.responseTo (w.requests + 1) source).error = none) :
    submit k source w = (.ok (w.nextRequest, (k.responseTo (w.requests + 1) source).allPolls),
      { w.push (.call (.execute source)) with requests := w.requests + 1 }) := by
  unfold submit
  simp only [bind_apply, call, change_apply, world_apply]
  rw [World.requests_push, h]
  rfl

/-- What was captured of the answer to a unit makes its result. -/
theorem resultOf_limitedTo (unit limit elapsed : Int) (ms : List Message) :
    resultOf unit elapsed
        ⟨(Unlimited.run {} (Message.outputOf ms ++ [.flush])).limitedTo limit,
          Message.faultIn ms⟩ =
      (Answer.mk unit limit ms).result elapsed := by
  rw [resultOf, Answer.result, Answer.lines, Answer.fault?, Unlimited.limitedTo, Collector.text,
    Unlimited.lines_run_flush]
  cases Message.faultIn ms <;> rfl

/-- A unit that the kernel answers is submitted, and its answer is heard. -/
theorem runUnit_heard {k : Kernel} {sink : Sink} {unit : CodeUnit} (hs : sink.Passive)
    (h : Answers k unit w) (start : Float) :
    (runUnit k sink unit start).Ensures w
      (fun r w' => r.1.unit = unit.sequenceNumber ∧ r.1.start = start ∧
        Heard w w.handle.config.maxResults (heard k unit w) {} none (answer k unit w).messages
          r.2 w')
      (fun _ _ => False) := by
  have hsubmitted : Waiting w w.handle.config.maxResults [] {}
      { w.push (.call (.execute unit.source)) with requests := w.requests + 1 } := by
    refine ⟨rfl, rfl, rfl, rfl, ?_, ?_⟩
    · exact World.polls_push w _
    · rw [Unlimited.limitedTo_start]
      exact World.lines_push w _
  unfold runUnit
  rw [ensures_bind, Ensures, submit_of_accepted h.accepted]
  dsimp only
  rw [ensures_bind, ensures_world, ← Unlimited.limitedTo_start]
  refine (drain_ensures hs h.unhurried h.uncancelled h.alive h.unsaved h.wellFormed h.idle
    hsubmitted).bind fun c w' hc => ?_
  exact ⟨rfl, rfl, hc⟩

/-- **What executing a unit gives depends on nothing but the messages about it**, up to the one that
the kernel is idle again: this is the last one that is received, and the unit ends with the outcome
that its answer has at the time on the clock. The lines of its result have been given out. -/
theorem execute_eq_answer {k : Kernel} {sink : Sink} {unit : CodeUnit} (task : Text)
    (hw : w.handle.state = .connected) (hs : sink.Passive) (h : Answers k unit w) :
    (execute k sink task unit w).1 =
      (answer k unit w).outcomeBetween w.clock (clockAfter w.clock (heard k unit w)) ∧
    World.pollsSince w (execute k sink task unit w).2 = heard k unit w ∧
    World.linesSince w (execute k sink task unit w).2 =
      (answer k unit w).lines.take w.handle.config.maxResults.toNat := by
  -- all three statements are about how executing the unit ends
  refine Ensures.outcome (P := fun r w' =>
    r = (answer k unit w).outcomeBetween w.clock (clockAfter w.clock (heard k unit w)) ∧
    World.pollsSince w w' = heard k unit w ∧
    World.linesSince w w' = (answer k unit w).lines.take w.handle.config.maxResults.toNat) ?_
  unfold execute
  rw [ensures_bind, ensures_world, if_pos (.inl hw), ensures_bind, ensures_record, ensures_bind,
    ensures_changeHandle, ensures_bind, ensures_attempt]
  have hexecuting : Answers k unit { w.push (.record ⟨.debug, .session,
        task ++ ":Executing unit " ++ Text.ofInt unit.sequenceNumber ++ " on '" ++
        w.handle.config.kernel ++ "'"⟩) with handle := { w.handle with state := .executing } } :=
    ⟨h.unsaved, h.unhurried, h.uncancelled, h.alive, h.accepted, h.wellFormed, h.idle⟩
  refine (runUnit_heard hs hexecuting w.clock).mono ?_ fun _ _ he => he.elim
  rintro ⟨x, c⟩ w' ⟨hunit, hstart, hc⟩
  have hclock : w'.clock = clockAfter w.clock (heard k unit w) := hc.waiting.clock
  have hpolls : w'.polls = w.polls ++ heard k unit w :=
    hc.waiting.polls.trans (congrArg (· ++ _) (World.polls_push_of_none w rfl))
  have hlines : w'.lines =
      w.lines ++ (answer k unit w).lines.take w.handle.config.maxResults.toNat := by
    refine hc.waiting.lines.trans ?_
    show (w.push _).lines ++ (Unlimited.run {} _).lines.take _ = _
    rw [World.lines_push, Unlimited.lines_run_flush]
    exact congrArg (· ++ _) (List.append_nil _)
  have hcaptured : c = ⟨(Unlimited.run {} (Message.outputOf (answer k unit w).messages ++
      [.flush])).limitedTo w.handle.config.maxResults, (answer k unit w).fault?⟩ :=
    hc.captured.trans (by rw [Option.or_none]; rfl)
  rw [ensures_bind, ensures_changeHandle, ensures_bind, ensures_ofExcept]
  dsimp only
  unfold makeResult
  rw [ensures_bind, ensures_bind, ensures_world]
  dsimp only
  rw [hclock, hstart]
  unfold Answer.outcomeBetween
  rcases elapsedMilliseconds w.clock (clockAfter w.clock (heard k unit w)) with fault | elapsed
  · exact ⟨rfl, World.pollsSince_eq hpolls, World.linesSince_eq hlines⟩
  · have hresult : resultOf x.unit elapsed c = (answer k unit w).result elapsed := by
      rw [hunit, hcaptured]
      exact resultOf_limitedTo _ _ _ _
    have hfault : c.fault = (answer k unit w).fault? := by rw [hcaptured]
    rw [ensures_pure, hresult, hfault]
    unfold Answer.outcome
    rcases (answer k unit w).fault? with _ | fault
    · exact ⟨rfl, World.pollsSince_eq hpolls, World.linesSince_eq hlines⟩
    · exact ⟨rfl, World.pollsSince_eq hpolls, World.linesSince_eq hlines⟩

/-- A message about a request. -/
def message (request type : Text) (content : Fields) : Json :=
  .object [("header", .object [("msg_type", .text type)]),
    ("parent_header", .object [("msg_id", .text request)]), ("content", .object content)]

/-- A kernel whose answer to a line of code is interleaved with late output of another request and
an empty wait, and goes on after the kernel is idle. -/
def interleaved : Kernel where
  responses := [{
    code := "1"
    hangs := true
    polls := [
      ⟨none, .message fun _ => message "msg-0" "stream" [("text", .text "late\n")]⟩,
      ⟨none, .message fun request => message request "stream" [("text", .text "a\nb")]⟩,
      ⟨none, .empty⟩,
      ⟨none, .message fun _ => message "msg-0" "status" [("execution_state", .text "idle")]⟩,
      ⟨none, .message fun request => message request "stream" [("text", .text "c\n")]⟩,
      ⟨none, .message fun request => message request "error" [("ename", .text "ValueError"),
        ("traceback", .list [.text "boom"])]⟩,
      ⟨none, .message Kernel.idleMessage⟩,
      ⟨none, .message fun request => message request "stream" [("text", .text "more\n")]⟩] }]

/-- A connection with a limit of two lines. -/
def twoLines : World where
  handle := {
    config := { kernel := "python3", workspace := .ofText "ws", maxResults := 2 }
    state := .connected }

/-- Its answer has three lines, and two of them are given out. -/
theorem execute_interleaved :
    (execute interleaved .ignoring "t" ⟨0, "1", false⟩ twoLines).1 =
      Answer.outcomeBetween
        ⟨0, 2, [⟨"stream", [("msg_id", .text "msg-1")], [("text", .text "a\nb")]⟩,
          ⟨"stream", [("msg_id", .text "msg-1")], [("text", .text "c\n")]⟩,
          ⟨"error", [("msg_id", .text "msg-1")], [("ename", .text "ValueError"),
            ("traceback", .list [.text "boom"])]⟩,
          ⟨"status", [("msg_id", .text "msg-1")], [("execution_state", .text "idle")]⟩]⟩
        twoLines.clock (clockAfter twoLines.clock (heard interleaved ⟨0, "1", false⟩ twoLines)) ∧
    (World.pollsSince twoLines
      (execute interleaved .ignoring "t" ⟨0, "1", false⟩ twoLines).2).length = 7 ∧
    World.linesSince twoLines
      (execute interleaved .ignoring "t" ⟨0, "1", false⟩ twoLines).2 =
        ([("a" : Text), "bc"] : List Text) := by
  have hanswers : Answers interleaved ⟨0, "1", false⟩ twoLines := by
    refine ⟨rfl, rfl, rfl, rfl, rfl, ?_, ?_⟩
    · show ∀ p ∈ interleaved.responses.flatMap Response.polls, p.WellFormed twoLines.nextRequest
      simp only [interleaved, List.flatMap_cons, List.flatMap_nil, List.append_nil,
        List.forall_mem_cons]
      exact ⟨⟨_, rfl, rfl⟩, ⟨_, rfl, rfl⟩, trivial, ⟨_, rfl, rfl⟩, ⟨_, rfl, rfl⟩, ⟨_, rfl, rfl⟩,
        ⟨_, rfl, rfl⟩, ⟨_, rfl, rfl⟩, fun _ hp => nomatch hp⟩
    · exact ⟨⟨none, .message Kernel.idleMessage⟩, List.mem_of_getElem? (i := 6) rfl, rfl⟩
  have hpassive : Sink.ignoring.Passive := fun _ _ => rfl
  obtain ⟨hend, hpolls, hlines⟩ := execute_eq_answer "t" rfl hpassive hanswers
  refine ⟨?_, ?_, ?_⟩
  · rw [hend]
    rfl
  · rw [hpolls]
    rfl
  · rw [hlines]
    rfl

end Session

end KernelJob
