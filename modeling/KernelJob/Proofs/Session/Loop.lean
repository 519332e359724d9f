import KernelJob.Proofs.Json.Access
import KernelJob.Proofs.Session.Built
import KernelJob.Proofs.Session.Turns
import KernelJob.Proofs.Session.Unit
import Mathlib.Data.Nat.Find

/-! # The wait for a kernel as a loop

Waiting has no bound of its own: a message is asked for, it is taken into account or the kernel is
looked after, and so on. Here this is a loop over all that a kernel will ever answer: the polls of
its answer, and after them silent ones, at which it dies when its patience is at an end. Whether it
has died is asked of its manager if it was started here, and else of its client.

* **`Session.ask`** — asks the kernel for a message at a turn of the loop.
* **`Session.said`** — what is said of the kernel at the beginning of a turn;
  **`Session.FindsDead`** — a turn at which it is found dead.
* **`Session.takeTurn`**, **`Session.stage`** — a turn of the loop, and where the loop stands at the
  beginning of any turn.
* **`Session.EndsEarly`** — what ends the loop at a turn, other than that the kernel is found dead.
* **`Session.step_after`** — all that can happen at a turn. -/

namespace KernelJob

open KernelJob.Action

/-! ## Polls -/

/-- A delivery without a message and without an error. -/
def Delivery.IsSilent : Delivery → Prop
  | .empty => True
  | .death _ => True
  | .cancel => True
  | .message _ => False
  | .failure _ => False

/-- What is said of a kernel after a delivery, by what was said before it. -/
def Delivery.tell (before : Liveness) : Delivery → Liveness
  | .death said => said
  | _ => before

/-- The world after a poll that brings a message. -/
def Poll.received (p : Poll) (w : World) : World :=
  { w.push (.poll p) with clock := p.clockAfter w.clock }

namespace Session

/-- A silent poll, at which the kernel may die. -/
def silence (seconds : Float) (dies : Bool) : Action (Option Json) := do
  change fun w => { w with
    clock := w.clock + seconds
    alive := bif dies then false else w.alive }
  return none

/-- Whether the patience of the kernel is at an end at a turn of the wait. -/
def losesPatience (x : Execution) (polls : List Poll) (n : Nat) : Bool :=
  decide (polls.length + x.kernel.patience ≤ n)

/-- Asks for a message at a turn of the wait: for the polls of the answer, then in vain. -/
def ask (x : Execution) (polls : List Poll) (n : Nat) : Action (Option Json) :=
  match polls[n]? with
  | some p => receive x p
  | none =>
    silence (x.kernel.pause (polls.length + x.kernel.patience - n)) (losesPatience x polls n)

/-- What is said of the kernel after the poll of a turn, by what was said before it. -/
def tell (x : Execution) (polls : List Poll) (n : Nat) (before : Liveness) : Liveness :=
  match polls[n]? with
  | some p => p.delivery.tell before
  | none => bif losesPatience x polls n then false else before

/-- **What is said of the kernel** at the beginning of a turn, by what is said to begin with. -/
def said (x : Execution) (polls : List Poll) (first : Liveness) : Nat → Liveness
  | 0 => first
  | n + 1 => tell x polls n (said x polls first n)

/-- **A turn whose poll is silent.** -/
def IsSilent (polls : List Poll) (n : Nat) : Prop :=
  ∀ p, polls[n]? = some p → p.delivery.IsSilent

/-- **A turn at which the kernel is found dead**: its poll is silent, and after it the kernel is
dead as far as the one knows whom the handle has to ask. -/
def FindsDead (x : Execution) (polls : List Poll) (w : World) (n : Nat) : Prop :=
  IsSilent polls n ∧ w.handle.findsAlive (said x polls w.alive (n + 1)) = false

variable {x : Execution} {polls : List Poll} {c d : Captured} {w v : World} {n : Nat}

/-- A poll is silent, or it brings a message or an error. -/
theorem poll_cases (polls : List Poll) (n : Nat) :
    IsSilent polls n ∨
      (∃ p toRequest, polls[n]? = some p ∧ p.delivery = .message toRequest) ∨
      ∃ p e, polls[n]? = some p ∧ p.delivery = .failure e := by
  cases hp : polls[n]? with
  | none =>
    refine .inl fun p hsome => ?_
    rw [hp] at hsome
    cases hsome
  | some p =>
    have hsilent (h : p.delivery.IsSilent) : IsSilent polls n := by
      intro q hq
      rw [hp] at hq
      obtain rfl := Option.some.inj hq
      exact h
    cases hdelivery : p.delivery with
    | empty => exact .inl (hsilent (by rw [hdelivery]; exact trivial))
    | death said => exact .inl (hsilent (by rw [hdelivery]; exact trivial))
    | cancel => exact .inl (hsilent (by rw [hdelivery]; exact trivial))
    | message toRequest => exact .inr (.inl ⟨p, toRequest, rfl, hdelivery⟩)
    | failure e => exact .inr (.inr ⟨p, e, rfl, hdelivery⟩)

/-- Within the answer it is the poll that tells. -/
theorem tell_of_poll {p : Poll} (hp : polls[n]? = some p) (before : Liveness) :
    tell x polls n before = p.delivery.tell before := by
  rw [tell, hp]

/-- When the answer and the patience of the kernel are at an end, it is found dead, whoever is
asked. -/
theorem findsDead_last (x : Execution) (polls : List Poll) (w : World) :
    FindsDead x polls w (polls.length + x.kernel.patience) := by
  have hover : polls[polls.length + x.kernel.patience]? = none :=
    List.getElem?_eq_none (Nat.le_add_right _ _)
  constructor
  · intro p hp
    rw [hover] at hp
    cases hp
  · have hlost : losesPatience x polls (polls.length + x.kernel.patience) = true :=
      decide_eq_true (Nat.le_refl _)
    rw [said, tell, hover]
    dsimp only
    rw [hlost, cond_true, Handle.findsAlive_same]

/-- So there is a first turn at which it is, within the length of the answer and the patience of the
kernel. -/
theorem exists_first_findsDead (x : Execution) (polls : List Poll) (w : World) :
    ∃ n ≤ polls.length + x.kernel.patience,
      FindsDead x polls w n ∧ ∀ m < n, ¬ FindsDead x polls w m := by
  classical
  have hlast := findsDead_last x polls w
  have hsome : ∃ n, FindsDead x polls w n := ⟨_, hlast⟩
  exact ⟨Nat.find hsome, Nat.find_min' hsome hlast, Nat.find_spec hsome,
    fun m hm => Nat.find_min hsome hm⟩

/-! ## The loop -/

/-- **One turn of the wait**: a message is asked for and taken into account, or the kernel is looked
after if there is none. -/
def takeTurn (x : Execution) (ask : Action (Option Json)) (c : Captured) : Action Progressed := do
  checkTurn x c
  match ← ask with
  | some message => handleMessage x message c
  | none =>
    checkAlive
    return .more c

/-- **Where the loop stands** at the beginning of a turn. -/
inductive Stage
  /-- It goes on. -/
  | waiting (captured : Captured) (world : World)
  /-- It has ended. -/
  | ended (outcome : Except Failure Captured) (world : World)

namespace Stage

/-- Where the loop stands after a turn. -/
def after : Except Failure Progressed × World → Stage
  | (.ok (.more c), w) => .waiting c w
  | (.ok (.idle c), w) => .ended (.ok c) w
  | (.error e, w) => .ended (.error e) w

/-- The loop takes a turn, unless it has ended. -/
def next (x : Execution) (ask : Action (Option Json)) : Stage → Stage
  | .waiting c w => after (takeTurn x ask c w)
  | .ended r w => .ended r w

/-- What the loop comes to, if this is what it comes to from where it waits. -/
def resolve (rest : Captured → World → Except Failure Captured × World) :
    Stage → Except Failure Captured × World
  | .waiting c w => rest c w
  | .ended r w => (r, w)

end Stage

/-- **Where the loop stands** at the beginning of a turn, if it begins in a world. -/
def stage (x : Execution) (polls : List Poll) (c : Captured) (w : World) : Nat → Stage
  | 0 => .waiting c w
  | n + 1 => (stage x polls c w n).next x (ask x polls n)

/-- A loop that has ended stays so. -/
theorem stage_of_ended {r : Except Failure Captured} (h : stage x polls c w n = .ended r v)
    {k : Nat} (hk : n ≤ k) : stage x polls c w k = .ended r v := by
  induction k, hk using Nat.le_induction with
  | base => exact h
  | succ k _ ih => rw [stage, ih, Stage.next]

/-- A loop that still waits has waited at every turn before. -/
theorem waiting_of_le (h : stage x polls c w n = .waiting d v) {m : Nat} (hm : m ≤ n) :
    ∃ d' v', stage x polls c w m = .waiting d' v' := by
  cases hstage : stage x polls c w m with
  | waiting d' v' => exact ⟨d', v', rfl⟩
  | ended r v' =>
    rw [stage_of_ended hstage hm] at h
    cases h

/-! ## What ends a turn early -/

/-- **A message that says that the kernel is idle again** after a request. -/
structure SaysIdle (request : Text) (message : Json) : Prop where
  about : isAbout request message = .ok true
  status : ∃ header, message.field "header" = .ok header ∧
    header.field "msg_type" = .ok (.text "status")
  idle : ∃ content, message.fieldOr "content" (.object []) = .ok content ∧
    content.fieldOr "execution_state" .null = .ok (.text "idle")

/-- Such a message ends the open line and the wait. -/
theorem handleMessage_of_saysIdle {message : Json} (h : SaysIdle x.request message)
    (c : Captured) : handleMessage x message c = Progressed.idle <$> collect x .flush c := by
  obtain ⟨habout, ⟨header, hheader, htype⟩, content, hcontent, hstate⟩ := h
  unfold handleMessage
  rw [habout]
  show ofExcept ((message.field "header").mapError Failure.misfit) >>= _ = _
  rw [hheader]
  show ofExcept ((header.field "msg_type").mapError Failure.misfit) >>= _ = _
  rw [htype]
  show ofExcept ((message.fieldOr "content" (.object [])).mapError Failure.misfit) >>= _ = _
  rw [hcontent]
  show handleOwn x (.text "status") content c = _
  unfold handleOwn
  rw [if_neg (by decide), if_neg (by decide), if_neg (by decide), if_pos (by decide), hstate]
  rfl

/-- A value that a message should hold is there, or the message is refused. -/
theorem ensures_ofMisfit_bind {α β : Type} {r : Except Misfit α} {f : α → Action β}
    {Q : β → World → Prop} (hf : ∀ a, r = .ok a → (f a).Ensures w Q fun _ _ => True) :
    (ofExcept (r.mapError Failure.misfit) >>= f).Ensures w Q fun _ _ => True := by
  cases r with
  | ok a => exact hf a rfl
  | error m => exact trivial

/-- Of the messages about a request only the state of the kernel may end the wait, and only if it is
idle. -/
theorem handleOwn_idle (type content : Json) (c : Captured) (w : World) :
    (handleOwn x type content c).Ensures w
      (fun progressed _ => ∀ d, progressed = .idle d → type = .text "status" ∧
        content.fieldOr "execution_state" .null = .ok (.text "idle"))
      (fun _ _ => True) := by
  have hmore (y : Action Captured) (v : World) :
      (y >>= fun d => pure (Progressed.more d)).Ensures v
        (fun progressed _ => ∀ d, progressed = .idle d → type = .text "status" ∧
          content.fieldOr "execution_state" .null = .ok (.text "idle"))
        (fun _ _ => True) :=
    (ensures_true y v).bind fun _ _ _ d hd => by cases hd
  unfold handleOwn
  split
  · -- streamed text
    refine ensures_ofMisfit_bind fun text _ => ?_
    split
    · exact hmore _ w
    · exact trivial
  split
  · -- an output in several types
    exact hmore _ w
  split
  · -- an error of the code
    refine ensures_ofMisfit_bind fun fault _ => ensures_ofMisfit_bind fun items _ => ?_
    exact hmore _ w
  split
  · -- a new state of the kernel
    rename_i hstatus
    refine ensures_ofMisfit_bind fun state hstate => ?_
    split
    · rename_i hidle
      rw [Json.isText_iff.mp hidle] at hstate
      exact (ensures_true _ w).bind fun _ _ _ _ _ => ⟨Json.isText_iff.mp hstatus, hstate⟩
    · exact fun d hd => by cases hd
  · exact fun d hd => by cases hd

/-- **No other message ends the wait.** -/
theorem handleMessage_idle (message : Json) (c : Captured) (w : World) :
    (handleMessage x message c).Ensures w
      (fun progressed _ => ∀ d, progressed = .idle d → SaysIdle x.request message)
      (fun _ _ => True) := by
  unfold handleMessage
  refine ensures_ofMisfit_bind fun about habout => ?_
  cases about with
  | false => exact fun d hd => by cases hd
  | true =>
    refine ensures_ofMisfit_bind fun header hheader => ensures_ofMisfit_bind fun type htype => ?_
    refine ensures_ofMisfit_bind fun content hcontent => ?_
    refine (handleOwn_idle type content c w).mono (fun progressed _ h d hd => ?_) fun _ _ h => h
    obtain ⟨rfl, hidle⟩ := h d hd
    exact ⟨habout, ⟨header, hheader, htype⟩, content, hcontent, hidle⟩

/-- **The time for a unit is over.** -/
def Execution.IsOverdue (x : Execution) (w : World) : Prop :=
  ∃ seconds, x.deadline = some seconds ∧ seconds < w.clock - x.start

/-- **What ends the loop at a turn**, other than that the kernel is found dead. -/
inductive EndsEarly (x : Execution) (polls : List Poll) (n : Nat) (c : Captured) (w : World) : Prop
  /-- The run has been cancelled. -/
  | cancelled (h : w.cancelled = true)
  /-- The deadline has passed. -/
  | overdue (h : x.IsOverdue w)
  /-- The poll ends with an error. -/
  | failed {p : Poll} {e : KernelError} (hp : polls[n]? = some p)
      (hdelivery : p.delivery = .failure e)
  /-- The message cannot be taken into account. -/
  | unhandled {p : Poll} {toRequest : Text → Json} {e : Failure} {v : World}
      (hp : polls[n]? = some p) (hdelivery : p.delivery = .message toRequest)
      (h : handleMessage x (toRequest x.request) c (p.received w) = (.error e, v))
  /-- The message says that the kernel is idle again. -/
  | idle {p : Poll} {toRequest : Text → Json} (hp : polls[n]? = some p)
      (hdelivery : p.delivery = .message toRequest) (h : SaysIdle x.request (toRequest x.request))

/-- A turn that begins in time goes on with the poll. -/
theorem takeTurn_of_inTime {ask : Action (Option Json)} (hcancelled : w.cancelled = false)
    (hdeadline : ¬ x.IsOverdue w) :
    takeTurn x ask c w = (do
      match ← ask with
      | some message => handleMessage x message c
      | none =>
        checkAlive
        return .more c : Action Progressed) w := by
  have hbegins : checkTurn x c w = (.ok (), w) :=
    Turn.checkTurn_of_not_isOverdue hcancelled fun seconds hs hlt => hdeadline ⟨seconds, hs, hlt⟩
  unfold takeTurn
  rw [bind_apply, hbegins]

/-- A turn that is cancelled or overdue ends the loop. -/
theorem takeTurn_of_late {ask : Action (Option Json)}
    (h : ¬ (w.cancelled = false ∧ ¬ x.IsOverdue w)) :
    (takeTurn x ask c).Ensures w (fun _ _ => False) fun _ _ => True := by
  have hcheck : (checkTurn x c).Ensures w (fun _ _ => False) fun _ _ => True := by
    unfold checkTurn
    rw [ensures_bind, ensures_world]
    by_cases hcancelled : w.cancelled = true
    · rw [if_pos hcancelled]
      exact (ensures_true _ w).bind fun _ _ _ => trivial
    · rw [if_neg hcancelled]
      have hoverdue : x.IsOverdue w := by
        by_contra hdeadline
        exact h ⟨Bool.eq_false_iff.mpr hcancelled, hdeadline⟩
      obtain ⟨seconds, hs, hlt⟩ := hoverdue
      rw [hs]
      dsimp only
      rw [if_pos hlt]
      refine (ensures_true _ w).bind fun _ v _ => (ensures_true _ v).bind fun _ u _ => ?_
      exact (ensures_true _ u).bind fun _ _ _ => trivial
  unfold takeTurn
  exact hcheck.bind fun _ _ hfalse => hfalse.elim

/-! ## What can happen at a turn -/

/-- **A world after the poll of a turn**: what is said of the kernel is what the poll tells, and it
is the same connection. -/
structure Polled (x : Execution) (polls : List Poll) (n : Nat) (w v : World) : Prop where
  alive : v.alive = tell x polls n w.alive
  connection : v.handle.connection = w.handle.connection

/-- Under the same connection the same one is asked. -/
theorem findsAlive_of_connection {g h : Handle} (hsame : g.connection = h.connection)
    (said : Liveness) : g.findsAlive said = h.findsAlive said :=
  Handle.findsAlive_congr (congrArg Handle.manager hsame :) said

/-- After the poll the kernel is found as the poll tells. -/
theorem Polled.isAlive (h : Polled x polls n w v) :
    v.isAlive = w.handle.findsAlive (tell x polls n w.alive) := by
  rw [World.isAlive, h.alive, findsAlive_of_connection h.connection]

/-- A silent poll brings no message. -/
theorem ask_of_isSilent (h : IsSilent polls n) (x : Execution) (w : World) :
    ∃ v, ask x polls n w = (.ok none, v) ∧ Polled x polls n w v := by
  unfold ask
  cases hp : polls[n]? with
  | none =>
    -- the answer is over
    refine ⟨_, rfl, ?_, rfl⟩
    rw [tell, hp]
  | some p =>
    have hsilent := h p hp
    dsimp only
    rw [receive_apply]
    cases hdelivery : p.delivery with
    | empty =>
      refine ⟨_, rfl, ?_, rfl⟩
      rw [tell_of_poll hp, hdelivery]
      rfl
    | death said =>
      refine ⟨_, rfl, ?_, rfl⟩
      rw [tell_of_poll hp, hdelivery]
      rfl
    | cancel =>
      refine ⟨_, rfl, ?_, rfl⟩
      rw [tell_of_poll hp, hdelivery]
      rfl
    | message toRequest =>
      rw [hdelivery] at hsilent
      exact hsilent.elim
    | failure e =>
      rw [hdelivery] at hsilent
      exact hsilent.elim

/-- A poll that brings a message. -/
theorem ask_of_message {p : Poll} {toRequest : Text → Json} (hp : polls[n]? = some p)
    (hdelivery : p.delivery = .message toRequest) (x : Execution) (w : World) :
    ask x polls n w = (.ok (some (toRequest x.request)), p.received w) := by
  unfold ask
  rw [hp]
  dsimp only
  rw [receive_apply, hdelivery]
  rfl

/-- A poll that brings an error. -/
theorem ask_of_failure {p : Poll} {e : KernelError} (hp : polls[n]? = some p)
    (hdelivery : p.delivery = .failure e) (x : Execution) (w : World) :
    (ask x polls n).Ensures w (fun _ _ => False) fun _ _ => True := by
  unfold ask
  rw [hp]
  dsimp only
  rw [Ensures, receive_apply, hdelivery]
  show Ensures (deliver x (.failure e)) _ _ _
  rw [deliver]
  split
  · exact trivial
  · exact trivial

/-- Taking a message into account has nothing to do with the life of a kernel. -/
theorem handleMessage_alive (message : Json) (c : Captured) (w : World) :
    (handleMessage x message c).Ensures w
      (fun _ v => v.alive = w.alive ∧ v.handle.connection = w.handle.connection)
      (fun _ _ => True) := by
  have hsteady := (invariant_steady x w).toCapturing.handleMessage message (c := c) (.refl w)
  have halive := (capturing_keeps (x := x) (keptBy_alive rfl w.alive)).handleMessage message
    (c := c) (w := w) rfl
  refine (hsteady.and halive).mono ?_ fun _ _ _ => trivial
  rintro (d | d) v ⟨hsteady, halive⟩
  · exact ⟨halive, hsteady.connection⟩
  · exact ⟨halive, hsteady.connection⟩

/-- **Where the loop can stand after a turn** that begins in a world: something has ended it early;
or it has found the kernel dead; or it goes on, with a kernel that is found alive if no message
came. -/
inductive Step (x : Execution) (polls : List Poll) (n : Nat) (c : Captured) (w : World) :
    Stage → Prop
  | early (h : EndsEarly x polls n c w) (r : Except Failure Captured) (v : World) :
      Step x polls n c w (.ended r v)
  | died (h : ¬ EndsEarly x polls n c w) (hsilent : IsSilent polls n)
      (hdead : w.handle.findsAlive (tell x polls n w.alive) = false) (v : World) :
      Step x polls n c w (.ended (.error (.transport (.died w.handle.config.kernel))) v)
  | goesOn (h : ¬ EndsEarly x polls n c w) {d : Captured} {v : World}
      (hpolled : Polled x polls n w v)
      (halive : IsSilent polls n → w.handle.findsAlive (tell x polls n w.alive) = true) :
      Step x polls n c w (.waiting d v)

/-- What ends the loop early does end it. -/
theorem ended_of_endsEarly (h : EndsEarly x polls n c w) :
    ∃ r v, Stage.after (takeTurn x (ask x polls n) c w) = .ended r v := by
  have hended : (takeTurn x (ask x polls n) c).Ensures w
      (fun progressed _ => ∃ d, progressed = .idle d) fun _ _ => True := by
    by_cases hintime : w.cancelled = false ∧ ¬ x.IsOverdue w
    · -- the turn begins, so it is the poll or its message that ends it
      rw [Ensures.congr (takeTurn_of_inTime hintime.1 hintime.2)]
      cases h with
      | cancelled hcancelled => exact absurd hcancelled (by rw [hintime.1]; decide)
      | overdue hdeadline => exact absurd hdeadline hintime.2
      | failed hp hdelivery => exact (ask_of_failure hp hdelivery x w).bind fun _ _ h => h.elim
      | unhandled hp hdelivery hhandle =>
        rw [ensures_bind, Ensures, ask_of_message hp hdelivery]
        show Ensures (handleMessage x _ c) _ _ _
        rw [Ensures, hhandle]
        exact trivial
      | idle hp hdelivery hidle =>
        rw [ensures_bind, Ensures, ask_of_message hp hdelivery]
        show Ensures (handleMessage x _ c) _ _ _
        rw [handleMessage_of_saysIdle hidle]
        exact (ensures_true _ _).bind fun d _ _ => ⟨d, rfl⟩
    · exact (takeTurn_of_late hintime).mono (fun _ _ h => h.elim) fun _ _ h => h
  unfold Ensures at hended
  rcases hturn : takeTurn x (ask x polls n) c w with ⟨e | progressed, v⟩
  · exact ⟨.error e, v, rfl⟩
  · rw [hturn] at hended
    obtain ⟨d, rfl⟩ := hended
    exact ⟨.ok d, v, rfl⟩

/-- A turn in time that nothing else ends early goes on with its poll. -/
theorem takeTurn_of_not_endsEarly (h : ¬ EndsEarly x polls n c w) :
    takeTurn x (ask x polls n) c w = (do
      match ← ask x polls n with
      | some message => handleMessage x message c
      | none =>
        checkAlive
        return .more c : Action Progressed) w :=
  takeTurn_of_inTime (Bool.eq_false_iff.mpr fun hcancelled => h (.cancelled hcancelled))
    fun hdeadline => h (.overdue hdeadline)

/-- **Without a message** the kernel is looked after: the loop goes on if it is found alive. -/
theorem step_of_isSilent (h : ¬ EndsEarly x polls n c w) (hsilent : IsSilent polls n) :
    Step x polls n c w (.after (takeTurn x (ask x polls n) c w)) := by
  obtain ⟨v, hask, hpolled⟩ := ask_of_isSilent hsilent x w
  have hfound := hpolled.isAlive
  rw [takeTurn_of_not_endsEarly h, bind_apply, hask]
  dsimp only
  rw [bind_apply]
  cases halive : v.isAlive with
  | true =>
    rw [Turn.checkAlive_of_alive halive]
    exact .goesOn h hpolled fun _ => hfound.symm.trans halive
  | false =>
    have hconfig : v.handle.config = w.handle.config :=
      (congrArg Handle.config hpolled.connection :)
    rw [Turn.checkAlive_of_dead halive, hconfig]
    exact .died h hsilent (hfound.symm.trans halive) v

/-- **With a message** the kernel is not looked after: the loop goes on, alive or not, unless the
message ends it. -/
theorem step_of_message (h : ¬ EndsEarly x polls n c w) {p : Poll} {toRequest : Text → Json}
    (hp : polls[n]? = some p) (hdelivery : p.delivery = .message toRequest) :
    Step x polls n c w (.after (takeTurn x (ask x polls n) c w)) := by
  have hloud : ¬ IsSilent polls n := by
    intro hsilent
    have hpoll := hsilent p hp
    rw [hdelivery] at hpoll
    exact hpoll
  have htold : tell x polls n w.alive = w.alive := by
    rw [tell_of_poll hp, hdelivery]
    rfl
  have halive := handleMessage_alive (x := x) (toRequest x.request) c (p.received w)
  have hidle := handleMessage_idle (x := x) (toRequest x.request) c (p.received w)
  unfold Ensures at halive hidle
  rw [takeTurn_of_not_endsEarly h, bind_apply, ask_of_message hp hdelivery]
  dsimp only
  rcases hhandle : handleMessage x (toRequest x.request) c (p.received w) with ⟨e | d | d, v⟩
  · exact absurd (.unhandled hp hdelivery hhandle) h
  · rw [hhandle] at halive
    have hpolled : Polled x polls n w v := ⟨halive.1.trans htold.symm, halive.2⟩
    exact .goesOn h hpolled fun hsilent => absurd hsilent hloud
  · rw [hhandle] at hidle
    exact absurd (.idle hp hdelivery (hidle d rfl)) h

/-- **What can happen at a turn.** -/
theorem step_after (x : Execution) (polls : List Poll) (n : Nat) (c : Captured) (w : World) :
    Step x polls n c w (.after (takeTurn x (ask x polls n) c w)) := by
  by_cases hearly : EndsEarly x polls n c w
  · obtain ⟨r, v, hended⟩ := ended_of_endsEarly hearly
    rw [hended]
    exact .early hearly r v
  rcases poll_cases polls n with hsilent | ⟨p, toRequest, hp, hdelivery⟩ | ⟨p, e, hp, hdelivery⟩
  · exact step_of_isSilent hearly hsilent
  · exact step_of_message hearly hp hdelivery
  · exact absurd (.failed hp hdelivery) hearly

end Session

end KernelJob
