import KernelJob.Proofs.Output.Collected
import KernelJob.Proofs.Session.Turns

/-! # What has been captured by a turn

At each turn of a wait the messages about the request that were received until then have been
captured, and nothing else has happened but that lines were given to the receiver.

* **`Session.Quiet`** — nothing but lines for the receiver since an earlier world.
* **`Poll.Readable`** — a poll that brings a well-formed message if it brings one.
* **`Session.CaughtUp`** — a turn that has caught up with some polls.
* **`Session.CaughtUp.later`** — every turn of a wait has caught up with the polls that were
  received before it. -/

namespace KernelJob

/-- A line for a receiver is no poll. -/
@[simp] theorem World.polls_emitted (w : World) (sink : Sink) (line : Text) :
    (w.emitted sink line).polls = w.polls := by
  unfold emitted
  split <;> simp [push, polls, Event.poll?]

/-- A line for a receiver takes no time. -/
@[simp] theorem World.clock_emitted (w : World) (sink : Sink) (line : Text) :
    (w.emitted sink line).clock = w.clock := by
  unfold emitted
  split <;> rfl

/-- **A poll that brings a well-formed message**, if it brings one: a message with the parts of one,
and a content of the form of its type. -/
def Poll.Readable (request : Text) (p : Poll) : Prop :=
  ∀ toRequest, p.delivery = .message toRequest →
    ∃ m, Message.ofJson? (toRequest request) = some m ∧ m.output?.isSome = true

/-- One more poll brings one more message, if it brings one. -/
theorem ownMessages_append_singleton (request : Text) (ps : List Poll) (p : Poll) :
    ownMessages request (ps ++ [p]) = ownMessages request ps ++ (p.own? request).toList := by
  rw [ownMessages, ownMessages, List.filterMap_append, List.filterMap_cons, List.filterMap_nil]
  cases p.own? request <;> rfl

namespace Message

/-- The output of one more message follows. -/
theorem outputOf_append_singleton (ms : List Message) (m : Message) :
    outputOf (ms ++ [m]) = outputOf ms ++ m.output?.getD [] := by
  rw [outputOf, outputOf, List.flatMap_append]
  simp

/-- The error of one more message is the last one, if it reports one. -/
theorem faultIn_append_singleton (ms : List Message) (m : Message) :
    faultIn (ms ++ [m]) = m.fault?.or (faultIn ms) := by
  rw [faultIn, faultIn, List.filterMap_append, List.filterMap_cons, List.filterMap_nil]
  cases m.fault? <;> simp

end Message

namespace Session

open KernelJob.Action

variable {x : Execution} {w₀ w v : World} {c d : Captured}

/-! ## Steps -/

/-- **A quiet world**: since `w` nothing has happened but that lines were given to the receiver, who
may have cancelled the run. -/
structure Quiet (w v : World) : Prop where
  handle : v.handle = w.handle
  polls : v.polls = w.polls
  calls : v.calls = w.calls
  clock : v.clock = w.clock

theorem Quiet.refl (w : World) : Quiet w w := ⟨rfl, rfl, rfl, rfl⟩

/-- A line leaves a world quiet. -/
theorem Quiet.emitted (h : Quiet w v) (sink : Sink) (line : Text) :
    Quiet w (v.emitted sink line) :=
  ⟨by rw [World.handle_emitted, h.handle], by rw [World.polls_emitted, h.polls],
    by rw [World.calls_emitted, h.calls], by rw [World.clock_emitted, h.clock]⟩

/-- Output that is collected leaves a world quiet. -/
theorem collect_quiet (step : OutputStep) (c : Captured) (h : Quiet w v) :
    (collect x step c).Ensures v (fun _ => Quiet w) (fun _ _ => True) := by
  have hemitted : ∀ u line, Quiet w u → Quiet w (u.emitted x.sink line) :=
    fun u line hu => hu.emitted x.sink line
  have hemit := ensures_emitAll hemitted ((c.collector.step step).since c.collector) h
  unfold collect
  exact (hemit.mono (fun _ _ hu => hu) fun _ _ _ => trivial).bind fun _ _ hu => hu

/-- Output that is collected step by step leaves a world quiet. -/
theorem collectAll_quiet (steps : List OutputStep) (c : Captured) (h : Quiet w v) :
    (collectAll x steps c).Ensures v (fun _ => Quiet w) (fun _ _ => True) := by
  induction steps generalizing c v with
  | nil => exact h
  | cons step steps ih => exact (collect_quiet step c h).bind fun d u hu => ih d hu

/-- A poll that has brought a message. -/
theorem of_receive_some {p : Poll} {message : Json}
    (h : receive x p w = (.ok (some message), v)) :
    (∃ toRequest, p.delivery = .message toRequest ∧ message = toRequest x.request) ∧
      v = { w.push (.poll p) with clock := p.clockAfter w.clock } := by
  rw [receive_apply] at h
  cases hdelivery : p.delivery with
  | message toRequest =>
    rw [hdelivery] at h
    obtain ⟨hmessage, rfl⟩ := Prod.mk.inj h
    exact ⟨⟨toRequest, rfl, (Option.some.inj (Except.ok.inj hmessage)).symm⟩, rfl⟩
  | empty =>
    rw [hdelivery] at h
    cases h
  | death =>
    rw [hdelivery] at h
    cases h
  | cancel =>
    rw [hdelivery] at h
    cases h
  | failure e =>
    rw [hdelivery, deliver] at h
    split at h <;> cases h

/-- A poll that has brought no message. -/
theorem of_receive_none {p : Poll} (h : receive x p w = (.ok none, v)) :
    p.message? x.request = none ∧ v.handle = w.handle ∧ v.polls = w.polls ++ [p] ∧
      v.calls = w.calls ∧ v.lines = w.lines := by
  have hpolls : (w.push (.poll p)).polls = w.polls ++ [p] := World.polls_push w _
  have hcalls : (w.push (.poll p)).calls = w.calls := World.calls_push_of_none w rfl
  have hlines : (w.push (.poll p)).lines = w.lines := World.lines_push_of_none w rfl
  rw [receive_apply] at h
  unfold Poll.message?
  cases hdelivery : p.delivery with
  | message toRequest =>
    rw [hdelivery] at h
    cases h
  | empty =>
    rw [hdelivery] at h
    obtain ⟨-, rfl⟩ := Prod.mk.inj h
    exact ⟨rfl, rfl, hpolls, hcalls, hlines⟩
  | death =>
    rw [hdelivery] at h
    obtain ⟨-, rfl⟩ := Prod.mk.inj h
    exact ⟨rfl, rfl, hpolls, hcalls, hlines⟩
  | cancel =>
    rw [hdelivery] at h
    obtain ⟨-, rfl⟩ := Prod.mk.inj h
    refine ⟨rfl, rfl, ?_, ?_, ?_⟩
    · exact (World.polls_push_of_none _ rfl).trans hpolls
    · exact (World.calls_push_of_none _ rfl).trans hcalls
    · exact (World.lines_push_of_none _ rfl).trans hlines
  | failure e =>
    rw [hdelivery, deliver] at h
    split at h <;> cases h

/-- A message after which the wait goes on: its output was collected and its error noted if it is
about the request. -/
theorem of_handleMessage_more {message : Json} {m : Message} (hunsaved : w.handle.artifacts = none)
    (hm : Message.ofJson? message = some m) (hout : m.output?.isSome = true)
    (h : handleMessage x message c w = (.ok (.more d), v)) :
    (m.isAbout x.request = true ∧ m.isIdle = false ∧
      collectAll x m.steps { c with fault := m.fault?.or c.fault } w = (.ok d, v)) ∨
    (m.isAbout x.request = false ∧ d = c ∧ v = w) := by
  rw [handleMessage_capture hunsaved hm hout] at h
  by_cases habout : m.isAbout x.request = true
  · left
    rw [if_pos habout, map_apply] at h
    rcases hcollect : collectAll x m.steps { c with fault := m.fault?.or c.fault } w with
      ⟨e | d', v'⟩
    · rw [hcollect] at h
      cases h
    · rw [hcollect] at h
      obtain ⟨hend, rfl⟩ := Prod.mk.inj h
      cases hidle : m.isIdle with
      | true =>
        rw [hidle] at hend
        cases hend
      | false =>
        rw [hidle] at hend
        cases hend
        exact ⟨habout, rfl, rfl⟩
  · right
    rw [if_neg habout] at h
    cases h
    exact ⟨Bool.eq_false_iff.mpr habout, rfl, rfl⟩

/-! ## Turns -/

/-- **What was captured of some messages** under a limit. -/
def capturedOf (limit : Int) (ms : List Message) : Captured :=
  ⟨(Unlimited.run {} (Message.outputOf ms)).limitedTo limit, Message.faultIn ms⟩

/-- **A turn that has caught up with some polls**: the messages about the request that they have
brought were captured, and the lines that are kept of them were given out. -/
structure CaughtUp (x : Execution) (w₀ : World) (limit : Int) (before : List Poll) (t : Turn) :
    Prop where
  captured : t.captured = capturedOf limit (ownMessages x.request before)
  lines : t.world.lines = w₀.lines ++ t.captured.collector.lines
  polls : t.world.polls = w₀.polls ++ before
  calls : t.world.calls = w₀.calls
  handle : t.world.handle = w₀.handle

namespace CaughtUp

variable {limit : Int} {before : List Poll} {t u : Turn}

/-- The first turn has caught up with no polls. -/
theorem first (x : Execution) (w : World) (limit : Int) (polls : List Poll) (waits : Nat) :
    CaughtUp x w limit [] ⟨polls, waits, { collector := { limit := limit } }, w⟩ where
  captured := by
    show _ = (⟨Unlimited.limitedTo limit {}, none⟩ : Captured)
    rw [Unlimited.limitedTo_start]
  lines := (List.append_nil _).symm
  polls := (List.append_nil _).symm
  calls := rfl
  handle := rfl

/-- A poll without a message about the request adds nothing. -/
theorem poll_other (h : CaughtUp x w₀ limit before t) {p : Poll} {ps : List Poll} {waits : Nat}
    (hown : p.own? x.request = none) (hhandle : v.handle = t.world.handle)
    (hpolls : v.polls = t.world.polls ++ [p]) (hcalls : v.calls = t.world.calls)
    (hlines : v.lines = t.world.lines) :
    CaughtUp x w₀ limit (before ++ [p]) ⟨ps, waits, t.captured, v⟩ where
  captured := by
    rw [ownMessages_append_singleton, hown, h.captured]
    simp
  lines := hlines.trans h.lines
  polls := by rw [hpolls, h.polls, List.append_assoc]
  calls := hcalls.trans h.calls
  handle := hhandle.trans h.handle

/-- Of a poll with a message about the request the message is captured. -/
theorem poll_own (hs : x.sink.NeverFails) (h : CaughtUp x w₀ limit before t) {p : Poll}
    {ps : List Poll} {waits : Nat} {m : Message} {r : World} (hown : p.own? x.request = some m)
    (hidle : m.isIdle = false)
    (hr : r = { t.world.push (.poll p) with clock := p.clockAfter t.world.clock })
    (hcollect : collectAll x m.steps { t.captured with fault := m.fault?.or t.captured.fault } r =
      (.ok d, v)) :
    CaughtUp x w₀ limit (before ++ [p]) ⟨ps, waits, d, v⟩ := by
  have hrlines : r.lines = t.world.lines := by
    rw [hr]
    exact World.lines_push_of_none t.world rfl
  have hrpolls : r.polls = t.world.polls ++ [p] := by
    rw [hr]
    exact World.polls_push t.world _
  have hrcalls : r.calls = t.world.calls := by
    rw [hr]
    exact World.calls_push_of_none t.world rfl
  have hrhandle : r.handle = t.world.handle := by rw [hr]; rfl
  have hcaptured := h.captured
  rw [capturedOf] at hcaptured
  have hstart : r.lines = w₀.lines ++ (Unlimited.limitedTo limit
      (Unlimited.run {} (Message.outputOf (ownMessages x.request before)))).lines := by
    rw [hrlines, h.lines, hcaptured]
  have hkeeps := collectAll_keeps (E := fun _ _ => True) hs _
    (m.fault?.or (Message.faultIn (ownMessages x.request before))) m.steps hstart
  have hquiet := collectAll_quiet (x := x) m.steps
    { t.captured with fault := m.fault?.or t.captured.fault } (Quiet.refl r)
  rw [hcaptured] at hcollect hquiet
  unfold Ensures at hkeeps hquiet
  dsimp only at hcollect hquiet
  rw [hcollect] at hkeeps hquiet
  obtain ⟨hd, hlines⟩ := hkeeps
  constructor
  case captured =>
    rw [hd, capturedOf, ownMessages_append_singleton, hown, Option.toList_some,
      Message.outputOf_append_singleton, Message.faultIn_append_singleton, Unlimited.run_append,
      Message.steps_of_not_isIdle hidle]
  case lines => exact hlines
  case polls => exact hquiet.polls.trans (by rw [hrpolls, h.polls, List.append_assoc])
  case calls => exact hquiet.calls.trans (hrcalls.trans h.calls)
  case handle => exact hquiet.handle.trans (hrhandle.trans h.handle)

/-- **The next turn has caught up** with the poll that is received meanwhile, if one is. -/
theorem next (hs : x.sink.NeverFails) (hunsaved : w₀.handle.artifacts = none)
    (hreadable : ∀ p ∈ t.polls, p.Readable x.request) (h : CaughtUp x w₀ limit before t)
    (hnext : t.next? x = some u) :
    ∃ more, t.polls = more ++ u.polls ∧ CaughtUp x w₀ limit (before ++ more) u := by
  cases Turn.next?_eq_some_iff.mp hnext with
  | @wait waits c w _ _ =>
    refine ⟨[], rfl, ?_⟩
    rw [List.append_nil]
    exact ⟨h.captured, h.lines, h.polls, h.calls, h.handle⟩
  | @none p ps waits c w v _ hreceive _ =>
    obtain ⟨hmessage, hhandle, hpolls, hcalls, hlines⟩ := of_receive_none hreceive
    have hown : p.own? x.request = none := by rw [Poll.own?, hmessage]; rfl
    exact ⟨[p], rfl, h.poll_other hown hhandle hpolls hcalls hlines⟩
  | @message p ps waits c d w v v' message _ hreceive hhandled =>
    refine ⟨[p], rfl, ?_⟩
    obtain ⟨⟨toRequest, hdelivery, rfl⟩, hv⟩ := of_receive_some hreceive
    obtain ⟨m, hm, hout⟩ := hreadable p List.mem_cons_self toRequest hdelivery
    have hmessage : p.message? x.request = some m := by rw [Poll.message?, hdelivery]; exact hm
    have hvunsaved : v.handle.artifacts = none := by
      rw [hv]
      show w.handle.artifacts = none
      rw [h.handle, hunsaved]
    rcases of_handleMessage_more hvunsaved hm hout hhandled with
      ⟨habout, hidle, hcollect⟩ | ⟨habout, rfl, rfl⟩
    · have hown : p.own? x.request = some m := by
        rw [Poll.own?, hmessage, Option.filter_some, if_pos habout]
      exact h.poll_own hs hown hidle hv hcollect
    · -- a message about another request
      have hown : p.own? x.request = none := by
        rw [Poll.own?, hmessage, Option.filter_some, habout]
        rfl
      refine h.poll_other hown ?_ ?_ ?_ ?_
      · rw [hv]
        rfl
      · rw [hv]
        exact World.polls_push w _
      · rw [hv]
        exact World.calls_push_of_none w rfl
      · rw [hv]
        exact World.lines_push_of_none w rfl

/-- **Every turn of a wait has caught up** with the polls that were received before it. -/
theorem later (hs : x.sink.NeverFails) (hunsaved : w₀.handle.artifacts = none) {n : Nat}
    (hreadable : ∀ p ∈ t.polls, p.Readable x.request) (h : CaughtUp x w₀ limit before t)
    (hlater : t.later? x n = some u) :
    ∃ more, t.polls = more ++ u.polls ∧ CaughtUp x w₀ limit (before ++ more) u := by
  -- what the first turn has caught up with grows by what is received until the next one
  induction n generalizing t before with
  | zero =>
    obtain rfl := Option.some.inj hlater
    refine ⟨[], rfl, ?_⟩
    rw [List.append_nil]
    exact h
  | succ n ih =>
    obtain ⟨s, hnext, hs'⟩ := Option.bind_eq_some_iff.mp hlater
    obtain ⟨first, hfirst, hcaught⟩ := h.next hs hunsaved hreadable hnext
    have hrest : ∀ p ∈ s.polls, p.Readable x.request := by
      intro p hp
      refine hreadable p ?_
      rw [hfirst]
      exact List.mem_append_right first hp
    obtain ⟨more, hmore, hend⟩ := ih hrest hcaught hs'
    refine ⟨first ++ more, ?_, ?_⟩
    · rw [hfirst, hmore, List.append_assoc]
    · rw [← List.append_assoc]
      exact hend

end CaughtUp

end Session

end KernelJob
