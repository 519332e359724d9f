import KernelJob.World

/-! # What a world shows of its trace

Every step of a run writes to the trace of its world and most change nothing else. This file says
what one more event does to the views of the trace: the calls, the lines and the submitted sources.
`World.callsSince`, `World.pollsSince` and `World.submittedSince` cut these views at an earlier
world, and `World.emitted` is the world after a line has been given to a receiver. -/

namespace KernelJob

/-- The poll of an event that is one. -/
def Event.poll? : Event → Option Poll
  | .poll p => some p
  | _ => none

/-- **A receiver that never fails.** -/
def Sink.NeverFails (sink : Sink) : Prop :=
  ∀ before line, (sink.react before line).failure = none

/-- No line makes a receiver fail that never fails. -/
theorem Sink.NeverFails.ne_some {sink : Sink} (hs : sink.NeverFails) (before : List Text)
    (line : Text) (e : Failure) : (sink.react before line).failure ≠ some e := by
  intro he
  rw [hs before line] at he
  cases he

/-- **A receiver that never cancels the run.** -/
def Sink.NeverCancels (sink : Sink) : Prop :=
  ∀ before line, (sink.react before line).cancels = false

/-- **A receiver that only takes note**: it neither fails nor cancels the run. -/
def Sink.Passive (sink : Sink) : Prop := ∀ before line, sink.react before line = {}

namespace World

/-- The polls received, in order. -/
def polls (w : World) : List Poll := w.trace.filterMap Event.poll?

/-! ## One more event -/

@[simp] theorem requests_push (w : World) (e : Event) : (w.push e).requests = w.requests := rfl

@[simp] theorem files_push (w : World) (e : Event) : (w.push e).files = w.files := rfl

@[simp] theorem handle_push (w : World) (e : Event) : (w.push e).handle = w.handle := rfl

@[simp] theorem state_push (w : World) (e : Event) : (w.push e).state = w.state := rfl

@[simp] theorem progress_push (w : World) (e : Event) : (w.push e).progress = w.progress := rfl

/-- One more event adds its call, if it is one. -/
@[simp] theorem calls_push (w : World) (e : Event) :
    (w.push e).calls = w.calls ++ e.call?.toList := by
  cases e <;> simp [push, calls, Event.call?]

/-- One more event adds its poll, if it is one. -/
@[simp] theorem polls_push (w : World) (e : Event) :
    (w.push e).polls = w.polls ++ e.poll?.toList := by
  cases e <;> simp [push, polls, Event.poll?]

/-- One more event adds its line, if it is one. -/
@[simp] theorem lines_push (w : World) (e : Event) :
    (w.push e).lines = w.lines ++ e.line?.toList := by
  cases e <;> simp [push, lines, Event.line?]

/-- An event that is no call leaves the calls alone. -/
theorem calls_push_of_none (w : World) {e : Event} (he : e.call? = none) :
    (w.push e).calls = w.calls := by
  rw [calls_push, he, Option.toList_none, List.append_nil]

/-- An event that is no poll leaves the polls alone. -/
theorem polls_push_of_none (w : World) {e : Event} (he : e.poll? = none) :
    (w.push e).polls = w.polls := by
  rw [polls_push, he, Option.toList_none, List.append_nil]

/-- An event that is no line leaves the lines alone. -/
theorem lines_push_of_none (w : World) {e : Event} (he : e.line? = none) :
    (w.push e).lines = w.lines := by
  rw [lines_push, he, Option.toList_none, List.append_nil]

/-- The sources submitted are those of the calls. -/
theorem submitted_eq (w : World) : w.submitted = w.calls.filterMap Call.source? := rfl

/-- The calls are those of the trace, whatever else the world holds. -/
theorem calls_congr {w w' : World} (h : w'.trace = w.trace) : w'.calls = w.calls := by
  rw [calls, calls, h]

/-! ## Since an earlier world -/

/-- **The calls since an earlier world.** -/
def callsSince (w₀ w : World) : List Call := w.calls.drop w₀.calls.length

/-- **The polls received since an earlier world.** -/
def pollsSince (w₀ w : World) : List Poll := w.polls.drop w₀.polls.length

/-- **The lines given out since an earlier world.** -/
def linesSince (w₀ w : World) : List Text := w.lines.drop w₀.lines.length

/-- **The sources submitted since an earlier world.** -/
def submittedSince (w₀ w : World) : List Text := w.submitted.drop w₀.submitted.length

/-- The calls that follow those of the earlier world are the calls since. -/
theorem callsSince_eq {w₀ w : World} {cs : List Call} (h : w.calls = w₀.calls ++ cs) :
    callsSince w₀ w = cs := by
  rw [callsSince, h, List.drop_left]

/-- A call since an earlier world stays one when more calls follow. -/
theorem callsSince_subset (w₀ : World) {v w : World} {cs : List Call}
    (h : w.calls = v.calls ++ cs) : callsSince w₀ v ⊆ callsSince w₀ w := by
  rw [callsSince, callsSince, h, List.drop_append]
  exact List.subset_append_left _ _

/-- The polls that follow those of the earlier world are the polls since. -/
theorem pollsSince_eq {w₀ w : World} {ps : List Poll} (h : w.polls = w₀.polls ++ ps) :
    pollsSince w₀ w = ps := by
  rw [pollsSince, h, List.drop_left]

/-- The lines that follow those of the earlier world are the lines since. -/
theorem linesSince_eq {w₀ w : World} {ls : List Text} (h : w.lines = w₀.lines ++ ls) :
    linesSince w₀ w = ls := by
  rw [linesSince, h, List.drop_left]

/-- The sources that follow those of the earlier world are the sources since. -/
theorem submittedSince_eq {w₀ w : World} {ts : List Text} (h : w.submitted = w₀.submitted ++ ts) :
    submittedSince w₀ w = ts := by
  rw [submittedSince, h, List.drop_left]

/-! ## Lines for a receiver -/

/-- **The world after a line was given to a receiver**, which may cancel the run. -/
def emitted (w : World) (sink : Sink) (line : Text) : World :=
  if (sink.react w.lines line).cancels then
    { w.push (.line line) with cancelled := true }.push .cancel
  else w.push (.line line)

/-- A line for a receiver that only takes note is no more than a line. -/
theorem emitted_of_passive {sink : Sink} (hs : sink.Passive) (w : World) (line : Text) :
    w.emitted sink line = w.push (.line line) := by
  rw [emitted, hs]
  rfl

/-- A line for a receiver that never cancels is no more than a line. -/
theorem emitted_of_neverCancels {sink : Sink} (hs : sink.NeverCancels) (w : World)
    (line : Text) : w.emitted sink line = w.push (.line line) := by
  rw [emitted, hs]
  rfl

/-- A line for a receiver is added to the trace, with the moment of cancellation if there is one. -/
theorem trace_emitted (w : World) (sink : Sink) (line : Text) :
    (w.emitted sink line).trace =
      w.trace ++ (.line line :: if (sink.react w.lines line).cancels then [.cancel] else []) := by
  unfold emitted
  split
  · simp [push]
  · rfl

/-- A line for a receiver is no call. -/
@[simp] theorem calls_emitted (w : World) (sink : Sink) (line : Text) :
    (w.emitted sink line).calls = w.calls := by
  unfold emitted
  split <;> simp [push, calls, Event.call?]

@[simp] theorem files_emitted (w : World) (sink : Sink) (line : Text) :
    (w.emitted sink line).files = w.files := by
  unfold emitted
  split <;> rfl

@[simp] theorem handle_emitted (w : World) (sink : Sink) (line : Text) :
    (w.emitted sink line).handle = w.handle := by
  unfold emitted
  split <;> rfl

@[simp] theorem alive_emitted (w : World) (sink : Sink) (line : Text) :
    (w.emitted sink line).alive = w.alive := by
  unfold emitted
  split <;> rfl

@[simp] theorem state_emitted (w : World) (sink : Sink) (line : Text) :
    (w.emitted sink line).state = w.state := by
  unfold emitted
  split <;> rfl

@[simp] theorem progress_emitted (w : World) (sink : Sink) (line : Text) :
    (w.emitted sink line).progress = w.progress := by
  unfold emitted
  split <;> rfl

end World

/-- Who is asked whether a kernel is alive depends on its manager only. -/
theorem Handle.findsAlive_congr {g h : Handle} (hmanager : g.manager = h.manager)
    (said : Liveness) : g.findsAlive said = h.findsAlive said := by
  rw [findsAlive, findsAlive, hmanager]

/-- A kernel is found alive by what is said of it and by who is asked. -/
theorem World.isAlive_congr {v w : World} (hmanager : v.handle.manager = w.handle.manager)
    (halive : v.alive = w.alive) : v.isAlive = w.isAlive := by
  rw [isAlive, isAlive, halive, Handle.findsAlive_congr hmanager]

/-- If the manager and the client say the same of a kernel, it does not matter who is asked. -/
@[simp] theorem Handle.findsAlive_same (h : Handle) (alive : Bool) :
    h.findsAlive ⟨alive, alive⟩ = alive := by
  unfold findsAlive
  split <;> rfl

end KernelJob
