import KernelJob.Proofs.Session.Drain

/-! # The wait for a kernel, turn by turn

At the beginning of a turn the wait looks for cancellation and for the deadline; then a message is
asked for, or time passes if the kernel has nothing more to say. The turns of a wait do not depend
on its deadline, which only decides at which of them it ends.

* **`Session.Turn`** — the beginning of a turn: what is still to come, what was captured, and the
  world.
* **`Session.Turn.rest`** — the rest of the wait from a turn on.
* **`Session.Turn.next?`**, **`Session.Turn.later?`** — the turns that follow if no deadline ends
  the wait.
* **`Session.Turn.Next`** — what can happen from one turn to the next.
* **`Session.Turn.IsOverdue`** — a turn at which the deadline ends it.
* **`Session.Turn.rest_of_later?`** — until then the wait goes on from turn to turn. -/

namespace KernelJob.Session

open KernelJob.Action

/-- **The beginning of a turn** of the wait for a kernel. -/
structure Turn where
  /-- The polls that are left. -/
  polls : List Poll
  /-- The waits that are left to a silent kernel when no polls are. -/
  waits : Nat
  captured : Captured
  world : World

namespace Turn

variable {x : Execution} {t u : Turn}

/-- **The rest of the wait** from a turn on. -/
def rest (x : Execution) (t : Turn) : Except Failure Captured × World :=
  match t.polls with
  | [] => drainSilence x t.captured t.waits t.world
  | p :: ps => drain x t.captured (p :: ps) t.world

/-- A wait as the rest from its first turn on. -/
theorem rest_first (x : Execution) (polls : List Poll) (c : Captured) (w : World) :
    rest x ⟨polls, x.kernel.patience, c, w⟩ = drain x c polls w := by
  cases polls with
  | nil => rfl
  | cons p ps => rfl

/-- **The turn that follows** if the run is not cancelled and no deadline ends the wait: a poll has
brought a message after which it goes on, or no message from a kernel that is alive; or a kernel
that is alive has let time pass. -/
def next? (x : Execution) (t : Turn) : Option Turn :=
  if t.world.cancelled then none
  else
    match t.polls, t.waits with
    | p :: ps, _ =>
      match receive x p t.world with
      | (.ok (some message), w) =>
        match handleMessage x message t.captured w with
        | (.ok (.more c), w) => some ⟨ps, x.kernel.patience, c, w⟩
        | _ => none
      | (.ok none, w) => if w.isAlive then some ⟨ps, x.kernel.patience, t.captured, w⟩ else none
      | (.error _, _) => none
    | [], waits + 1 =>
      if t.world.isAlive then
        some ⟨[], waits, t.captured,
          { t.world with clock := t.world.clock + x.kernel.pause (waits + 1) }⟩
      else none
    | [], 0 => none

/-- **From one turn to the next**: a message is received after which the wait goes on, or no message
from a kernel that is alive, or a kernel that is alive is waited for. -/
inductive Next (x : Execution) : Turn → Turn → Prop
  | message {p : Poll} {ps : List Poll} {waits : Nat} {c c' : Captured} {w v v' : World}
      {message : Json} (hcancelled : w.cancelled = false)
      (hreceive : receive x p w = (.ok (some message), v))
      (hhandle : handleMessage x message c v = (.ok (.more c'), v')) :
      Next x ⟨p :: ps, waits, c, w⟩ ⟨ps, x.kernel.patience, c', v'⟩
  | none {p : Poll} {ps : List Poll} {waits : Nat} {c : Captured} {w v : World}
      (hcancelled : w.cancelled = false) (hreceive : receive x p w = (.ok none, v))
      (halive : v.isAlive = true) : Next x ⟨p :: ps, waits, c, w⟩ ⟨ps, x.kernel.patience, c, v⟩
  | wait {waits : Nat} {c : Captured} {w : World} (hcancelled : w.cancelled = false)
      (halive : w.isAlive = true) :
      Next x ⟨[], waits + 1, c, w⟩
        ⟨[], waits, c, { w with clock := w.clock + x.kernel.pause (waits + 1) }⟩

/-- A turn that follows is one that can. -/
theorem Next.of_next? (h : t.next? x = some u) : Next x t u := by
  obtain ⟨polls, waits, c, w⟩ := t
  unfold next? at h
  dsimp only at h
  by_cases hcancelled : w.cancelled = true
  · rw [if_pos hcancelled] at h
    cases h
  rw [if_neg hcancelled] at h
  have huncancelled : w.cancelled = false := Bool.eq_false_iff.mpr hcancelled
  cases polls with
  | nil =>
    cases waits with
    | zero => cases h
    | succ waits =>
      dsimp only at h
      by_cases halive : w.isAlive = true
      · rw [if_pos halive] at h
        obtain rfl := Option.some.inj h
        exact .wait huncancelled halive
      · rw [if_neg halive] at h
        cases h
  | cons p ps =>
    dsimp only at h
    rcases hreceive : receive x p w with ⟨e | message, v⟩
    · rw [hreceive] at h
      cases h
    rw [hreceive] at h
    cases message with
    | none =>
      dsimp only at h
      by_cases halive : v.isAlive = true
      · rw [if_pos halive] at h
        obtain rfl := Option.some.inj h
        exact .none huncancelled hreceive halive
      · rw [if_neg halive] at h
        cases h
    | some message =>
      dsimp only at h
      rcases hhandle : handleMessage x message c v with ⟨e | progressed, v'⟩
      · rw [hhandle] at h
        cases h
      rw [hhandle] at h
      cases progressed with
      | idle c' => cases h
      | more c' =>
        obtain rfl := Option.some.inj h
        exact .message huncancelled hreceive hhandle

/-- **The turn that follows is the only one that can.** -/
theorem next?_eq_some_iff : t.next? x = some u ↔ Next x t u := by
  refine ⟨Next.of_next?, fun h => ?_⟩
  cases h with
  | message hcancelled hreceive hhandle =>
    unfold next?
    dsimp only
    rw [hcancelled, hreceive]
    dsimp only
    rw [hhandle]
    rfl
  | none hcancelled hreceive halive =>
    unfold next?
    dsimp only
    rw [hcancelled, hreceive]
    dsimp only
    rw [halive]
    rfl
  | wait hcancelled halive =>
    unfold next?
    dsimp only
    rw [hcancelled, halive]
    rfl

/-- The turn that follows after a number of turns, if the wait goes on for so long. -/
def later? (x : Execution) : Nat → Turn → Option Turn
  | 0, t => some t
  | n + 1, t => (t.next? x).bind (later? x n)

/-- **A turn at which the deadline has passed**, in a run that is not cancelled. -/
def IsOverdue (x : Execution) (t : Turn) : Prop :=
  t.world.cancelled = false ∧
    ∃ seconds, x.deadline = some seconds ∧ seconds < t.world.clock - x.start

/-- At a turn that is not overdue the deadline has not passed, unless the run is cancelled. -/
theorem not_lt_of_not_isOverdue (h : ¬ t.IsOverdue x) (hcancelled : t.world.cancelled = false) :
    ∀ seconds, x.deadline = some seconds → ¬ seconds < t.world.clock - x.start :=
  fun seconds hs hlt => h ⟨hcancelled, seconds, hs, hlt⟩

/-- A turn that is not overdue begins without any change. -/
theorem checkTurn_of_not_isOverdue {c : Captured} {w : World} (hcancelled : w.cancelled = false)
    (h : ∀ seconds, x.deadline = some seconds → ¬ seconds < w.clock - x.start) :
    checkTurn x c w = (.ok (), w) := by
  unfold checkTurn
  rw [bind_apply, world_apply]
  dsimp only
  rw [if_neg (by rw [hcancelled]; decide)]
  cases hdeadline : x.deadline with
  | none => rfl
  | some seconds =>
    dsimp only
    rw [if_neg (h seconds hdeadline)]
    rfl

/-- In a run that is cancelled the kernel is interrupted, and the wait ends. -/
theorem checkTurn_of_cancelled {c : Captured} {w : World} (h : w.cancelled = true) :
    checkTurn x c w =
      (interrupt x.kernel >>= fun _ => fail (.cancelled (.duringUnit x.unit)) : Action Unit) w := by
  unfold checkTurn
  rw [bind_apply, world_apply]
  dsimp only
  rw [if_pos h, bind_apply, bind_apply]
  rcases interrupt x.kernel w with ⟨e | _, v⟩ <;> rfl

/-- A turn that is not overdue begins only in a run that is not cancelled. -/
theorem uncancelled_of_checkTurn {c : Captured} {w v : World}
    (h : checkTurn x c w = (.ok (), v)) : w.cancelled = false := by
  cases hcancelled : w.cancelled with
  | false => rfl
  | true =>
    rw [checkTurn_of_cancelled hcancelled, bind_apply] at h
    rcases hinterrupt : interrupt x.kernel w with ⟨e | _, u⟩
    · rw [hinterrupt] at h
      cases h
    · rw [hinterrupt] at h
      cases h

/-- A kernel that is alive is waited for. -/
theorem checkAlive_of_alive {w : World} (h : w.isAlive = true) : checkAlive w = (.ok (), w) := by
  unfold checkAlive
  rw [bind_apply, world_apply]
  dsimp only
  rw [if_pos h]
  rfl

/-- A kernel that is found dead ends the wait. -/
theorem checkAlive_of_dead {w : World} (h : w.isAlive = false) :
    checkAlive w = (.error (.transport (.died w.handle.config.kernel)), w) := by
  unfold checkAlive
  rw [bind_apply, world_apply]
  dsimp only
  rw [if_neg (by rw [h]; exact Bool.false_ne_true)]
  rfl

/-- **The wait goes on from a turn to the next one**, unless the deadline has passed. -/
theorem rest_of_next? (hnext : t.next? x = some u) (h : ¬ t.IsOverdue x) :
    t.rest x = u.rest x := by
  have hbegins (hcancelled : t.world.cancelled = false) :
      checkTurn x t.captured t.world = (.ok (), t.world) :=
    checkTurn_of_not_isOverdue hcancelled (not_lt_of_not_isOverdue h hcancelled)
  cases next?_eq_some_iff.mp hnext with
  | @message p ps waits c c' w v v' message hcancelled hreceive hhandle =>
    rw [rest_first]
    show drain x c (p :: ps) w = _
    rw [drain, bind_apply, hbegins hcancelled]
    dsimp only
    rw [bind_apply, hreceive]
    dsimp only
    rw [bind_apply, hhandle]
  | @none p ps waits c w v hcancelled hreceive halive =>
    rw [rest_first]
    show drain x c (p :: ps) w = _
    rw [drain, bind_apply, hbegins hcancelled]
    dsimp only
    rw [bind_apply, hreceive]
    dsimp only
    rw [bind_apply, checkAlive_of_alive halive]
  | @wait waits c w hcancelled halive =>
    have hchecked (seconds : Float) : checkAlive { w with clock := w.clock + seconds } =
        (.ok (), { w with clock := w.clock + seconds }) := checkAlive_of_alive halive
    show drainSilence x c (waits + 1) w = drainSilence x c waits _
    rw [drainSilence, bind_apply, hbegins hcancelled]
    dsimp only
    rw [advance, bind_apply, change_apply]
    dsimp only
    rw [bind_apply, hchecked]

/-- **The wait goes on from turn to turn** until the deadline has passed. -/
theorem rest_of_later? {n : Nat} (hlater : later? x n t = some u)
    (h : ∀ m < n, ∀ v, later? x m t = some v → ¬ v.IsOverdue x) : t.rest x = u.rest x := by
  -- the first turn is taken off, so that the rest is about any turn to begin with
  induction n generalizing t with
  | zero =>
    obtain rfl := Option.some.inj hlater
    rfl
  | succ n ih =>
    obtain ⟨v, hnext, hv⟩ := Option.bind_eq_some_iff.mp hlater
    have hfirst : t.rest x = v.rest x := rest_of_next? hnext (h 0 (Nat.succ_pos n) t rfl)
    rw [hfirst]
    refine ih hv fun m hm s hs => h (m + 1) (Nat.succ_lt_succ hm) s ?_
    rw [later?, hnext]
    exact hs

end Turn

end KernelJob.Session
