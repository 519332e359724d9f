import KernelJob.Proofs.Output.Collected
import KernelJob.Proofs.Session.Loop

/-! # The wait for a kernel ends

However often a kernel answers before it falls silent and dies, waiting for it ends: at the latest
at the first silent poll at which it is found dead, and earlier only for a reason.

* **`Session.said_of_waiting`** — what is said of the kernel at a turn that the loop reaches.
* **`Session.ended_of_findsDead`**, **`Session.waiting_of_not_endsEarly`** — where the loop ends,
  and how long it goes on.
* **`Session.resolve_stage`** — the wait is this loop.
* **`Session.drain_ends`** — how the wait ends. -/

namespace KernelJob.Session

open KernelJob.Action

variable {x : Execution} {polls : List Poll} {c d : Captured} {w v : World} {n : Nat}

/-! ## The run of the loop -/

/-- The turn at which the loop waits leads to the next one. -/
theorem step_of_waiting (h : stage x polls c w n = .waiting d v) :
    Step x polls n d v (stage x polls c w (n + 1)) := by
  rw [stage, h]
  exact step_after x polls n d v

/-- **As long as the loop waits**, nothing is said of the kernel but what the polls have told, and
the connection is the same. -/
theorem said_of_waiting (h : stage x polls c w n = .waiting d v) :
    v.alive = said x polls w.alive n ∧ v.handle.connection = w.handle.connection := by
  -- a loop that waits has waited a turn before, and that turn has gone on
  induction n generalizing d v with
  | zero =>
    obtain ⟨rfl, rfl⟩ := Stage.waiting.inj h
    exact ⟨rfl, rfl⟩
  | succ n ih =>
    obtain ⟨d', v', hbefore⟩ := waiting_of_le h (Nat.le_succ n)
    obtain ⟨halive, hconnection⟩ := ih hbefore
    have hstep := step_of_waiting hbefore
    rw [h] at hstep
    cases hstep with
    | goesOn _ hpolled _ =>
      refine ⟨?_, hpolled.connection.trans hconnection⟩
      rw [hpolled.alive, halive, said]

/-- A turn at which the kernel is found dead, seen from the world at its beginning. -/
theorem findsDead_iff_of_waiting (h : stage x polls c w n = .waiting d v) :
    FindsDead x polls w n ↔
      IsSilent polls n ∧ v.handle.findsAlive (tell x polls n v.alive) = false := by
  obtain ⟨halive, hconnection⟩ := said_of_waiting h
  rw [FindsDead, said, halive, findsAlive_of_connection hconnection]

/-- **The loop ends where the kernel is found dead**, if not before. -/
theorem ended_of_findsDead (h : FindsDead x polls w n) :
    ∃ r v, stage x polls c w (n + 1) = .ended r v := by
  cases hstage : stage x polls c w n with
  | ended r v => exact ⟨r, v, stage_of_ended hstage (Nat.le_succ n)⟩
  | waiting d v =>
    obtain ⟨hsilent, hdead⟩ := (findsDead_iff_of_waiting hstage).mp h
    cases hnext : stage x polls c w (n + 1) with
    | ended r v' => exact ⟨r, v', rfl⟩
    | waiting d' v' =>
      have hstep := step_of_waiting hstage
      rw [hnext] at hstep
      cases hstep with
      | goesOn _ _ halive =>
        rw [halive hsilent] at hdead
        cases hdead

/-- **The loop goes on** as long as nothing ends it early and the kernel is not found dead. -/
theorem waiting_of_not_endsEarly
    (hearly : ∀ m < n, ∀ d v, stage x polls c w m = .waiting d v → ¬ EndsEarly x polls m d v)
    (hdead : ∀ m < n, ¬ FindsDead x polls w m) : ∃ d v, stage x polls c w n = .waiting d v := by
  -- of the three things that can happen at a turn two are excluded
  induction n with
  | zero => exact ⟨c, w, rfl⟩
  | succ n ih =>
    obtain ⟨d, v, hstage⟩ := ih (fun m hm => hearly m (Nat.lt_succ_of_lt hm))
      fun m hm => hdead m (Nat.lt_succ_of_lt hm)
    have hfound := mt (findsDead_iff_of_waiting hstage).mpr (hdead n (Nat.lt_succ_self n))
    cases hnext : stage x polls c w (n + 1) with
    | waiting d' v' => exact ⟨d', v', rfl⟩
    | ended r v' =>
      have hstep := step_of_waiting hstage
      rw [hnext] at hstep
      cases hstep with
      | early h => exact absurd h (hearly n (Nat.lt_succ_self n) d v hstage)
      | died _ hsilent hdead' => exact absurd ⟨hsilent, hdead'⟩ hfound

/-! ## The wait is this loop -/

/-- Waiting begins with a turn. -/
theorem drain_cons_apply (x : Execution) (p : Poll) (ps : List Poll) (c : Captured) (w : World) :
    drain x c (p :: ps) w =
      (Stage.after (takeTurn x (receive x p) c w)).resolve fun d v => drain x d ps v := by
  rw [drain, takeTurn, bind_apply, bind_apply]
  rcases checkTurn x c w with ⟨e | _, w₁⟩
  · rfl
  dsimp only
  rw [bind_apply, bind_apply]
  rcases receive x p w₁ with ⟨e | message, w₂⟩
  · rfl
  cases message with
  | none =>
    dsimp only
    rw [bind_apply, bind_apply]
    rcases checkAlive w₂ with ⟨e | _, w₃⟩ <;> rfl
  | some message =>
    dsimp only
    rw [bind_apply]
    rcases handleMessage x message c w₂ with ⟨e | d | d, w₃⟩ <;> rfl

/-- So does waiting for a silent kernel. -/
theorem drainSilence_succ_apply (x : Execution) (waits : Nat) (c : Captured) (w : World) :
    drainSilence x c (waits + 1) w =
      (Stage.after (takeTurn x (silence (x.kernel.pause (waits + 1)) false) c w)).resolve
        fun d v => drainSilence x d waits v := by
  rw [drainSilence, takeTurn, bind_apply, bind_apply]
  rcases checkTurn x c w with ⟨e | _, w₁⟩
  · rfl
  have hsilent : silence (x.kernel.pause (waits + 1)) false w₁ =
      (.ok none, { w₁ with clock := w₁.clock + x.kernel.pause (waits + 1) }) := rfl
  dsimp only
  rw [bind_apply, bind_apply, hsilent]
  show (checkAlive >>= fun _ => _) _ = (Stage.after ((checkAlive >>= fun _ => _) _)).resolve _
  rw [bind_apply, bind_apply]
  rcases checkAlive { w₁ with clock := w₁.clock + x.kernel.pause (waits + 1) } with ⟨e | _, w₂⟩ <;>
    rfl

/-- At last it is found dead, and nothing follows. -/
theorem drainSilence_zero_apply (x : Execution) (c : Captured) (w : World)
    (rest : Captured → World → Except Failure Captured × World) :
    drainSilence x c 0 w =
      (Stage.after (takeTurn x (silence (x.kernel.pause 0) true) c w)).resolve rest := by
  rw [drainSilence, takeTurn, bind_apply, bind_apply]
  rcases checkTurn x c w with ⟨e | _, w₁⟩
  · rfl
  have hsilent : silence (x.kernel.pause 0) true w₁ =
      (.ok none, { w₁ with clock := w₁.clock + x.kernel.pause 0, alive := false }) := rfl
  have hdead : checkAlive { w₁ with clock := w₁.clock + x.kernel.pause 0, alive := false } =
      (.error (.transport (.died w₁.handle.config.kernel)),
        { w₁ with clock := w₁.clock + x.kernel.pause 0, alive := false }) :=
    Turn.checkAlive_of_dead (Handle.findsAlive_same w₁.handle false)
  dsimp only
  rw [bind_apply, bind_apply, hsilent]
  show (checkAlive >>= fun _ => _) _ = (Stage.after ((checkAlive >>= fun _ => _) _)).resolve _
  rw [bind_apply, bind_apply, hdead]
  rfl

/-- What the wait comes to from the beginning of a turn. -/
def restFrom (x : Execution) (polls : List Poll) (n : Nat) (c : Captured) (w : World) :
    Except Failure Captured × World :=
  Turn.rest x ⟨polls.drop n, polls.length + x.kernel.patience - n, c, w⟩

/-- Within the answer the polls are left that have not been received. -/
theorem restFrom_of_le (hn : n ≤ polls.length) (c : Captured) (w : World) :
    restFrom x polls n c w = drain x c (polls.drop n) w := by
  unfold restFrom
  cases hrest : polls.drop n with
  | cons p ps => rfl
  | nil =>
    obtain rfl : n = polls.length := Nat.le_antisymm hn (List.drop_eq_nil_iff.mp hrest)
    rw [Nat.add_sub_cancel_left]
    exact Turn.rest_first x [] c w

/-- After it there are only waits left. -/
theorem restFrom_of_ge (hn : polls.length ≤ n) (c : Captured) (w : World) :
    restFrom x polls n c w = drainSilence x c (polls.length + x.kernel.patience - n) w := by
  unfold restFrom
  rw [List.drop_of_length_le hn]
  rfl

/-- **The wait comes to the same from one turn to the next.** -/
theorem restFrom_eq_resolve (hn : n ≤ polls.length + x.kernel.patience) (c : Captured)
    (w : World) :
    restFrom x polls n c w =
      (Stage.after (takeTurn x (ask x polls n) c w)).resolve (restFrom x polls (n + 1)) := by
  rcases Nat.lt_or_ge n polls.length with hlt | hge
  · have hpoll : polls[n]? = some polls[n] := List.getElem?_eq_getElem hlt
    have hrest : restFrom x polls (n + 1) = fun d v => drain x d (polls.drop (n + 1)) v := by
      funext d v
      exact restFrom_of_le hlt d v
    rw [restFrom_of_le (Nat.le_of_lt hlt), hrest, List.drop_eq_getElem_cons hlt, drain_cons_apply,
      ask, hpoll]
  · have hnone : polls[n]? = none := List.getElem?_eq_none hge
    rw [restFrom_of_ge hge, ask, hnone]
    dsimp only
    rcases Nat.lt_or_eq_of_le hn with hlt | rfl
    · obtain ⟨waits, hwaits⟩ : ∃ waits, polls.length + x.kernel.patience - n = waits + 1 :=
        ⟨polls.length + x.kernel.patience - (n + 1), by omega⟩
      have hrest : restFrom x polls (n + 1) = fun d v => drainSilence x d waits v := by
        funext d v
        rw [restFrom_of_ge (Nat.le_succ_of_le hge)]
        congr 1
        omega
      have hpatient : losesPatience x polls n = false := decide_eq_false (Nat.not_le_of_lt hlt)
      rw [hwaits, hrest, hpatient, drainSilence_succ_apply]
    · have hlost : losesPatience x polls (polls.length + x.kernel.patience) = true :=
        decide_eq_true (Nat.le_refl _)
      rw [Nat.sub_self, hlost, drainSilence_zero_apply]

/-- **The wait is the loop**: wherever the loop stands, it comes to what the wait comes to. -/
theorem resolve_stage (hn : n ≤ polls.length + x.kernel.patience + 1) :
    (stage x polls c w n).resolve (restFrom x polls n) = drain x c polls w := by
  -- the bound is one turn more than the last, at which the loop has ended in any case
  induction n with
  | zero => exact restFrom_of_le (Nat.zero_le _) c w
  | succ n ih =>
    rw [← ih (Nat.le_of_succ_le hn), stage]
    cases stage x polls c w n with
    | waiting d v => exact (restFrom_eq_resolve (Nat.le_of_succ_le_succ hn) d v).symm
    | ended r v => rfl

/-! ## How the wait ends -/

/-- **How a wait ends** that begins in a world: at the latest at the turn `n` of the loop. -/
structure Ending (x : Execution) (polls : List Poll) (c : Captured) (w : World) (n : Nat) :
    Prop where
  /-- This is the first turn with a silent poll at which the kernel is found dead. -/
  first : FindsDead x polls w n ∧ ∀ m < n, ¬ FindsDead x polls w m
  /-- After it the loop has ended as the wait does, and stays so. -/
  ended : ∀ k > n, stage x polls c w k = .ended (drain x c polls w).1 (drain x c polls w).2
  /-- Whatever ends the loop early does so at its own turn, and this is how the wait ends. -/
  early : ∀ m d v, stage x polls c w m = .waiting d v → EndsEarly x polls m d v →
    stage x polls c w (m + 1) = .ended (drain x c polls w).1 (drain x c polls w).2
  /-- If nothing does, the loop waits until the turn `n`, and the failure is that the kernel has
  died. -/
  died : (∀ m ≤ n, ∀ d v, stage x polls c w m = .waiting d v → ¬ EndsEarly x polls m d v) →
    (∃ d v, stage x polls c w n = .waiting d v) ∧
    (drain x c polls w).1 = .error (.transport (.died w.handle.config.kernel))

/-- **The wait for a kernel ends**, whatever the kernel answers before it falls silent for good and
dies, and whatever its patience: with or without a deadline, whether the kernel was started here or
not, and whatever the receiver of the lines does. -/
theorem drain_ends (x : Execution) (polls : List Poll) (c : Captured) (w : World) :
    ∃ n ≤ polls.length + x.kernel.patience, Ending x polls c w n := by
  obtain ⟨n, hn, hdead, hfirst⟩ := exists_first_findsDead x polls w
  have hended : stage x polls c w (n + 1) = .ended (drain x c polls w).1 (drain x c polls w).2 := by
    obtain ⟨r, v, hended⟩ := ended_of_findsDead (c := c) hdead
    have hsame := resolve_stage (c := c) (w := w) (Nat.succ_le_succ hn)
    rw [hended] at hsame ⊢
    have hdrain : (r, v) = drain x c polls w := hsame
    rw [← hdrain]
  refine ⟨n, hn, ?_⟩
  constructor
  case first => exact ⟨hdead, hfirst⟩
  case ended => exact fun k hk => stage_of_ended hended hk
  case early =>
    intro m d u hstage hearly
    obtain ⟨r, v, hnext⟩ := ended_of_endsEarly hearly
    have hstop : stage x polls c w (m + 1) = .ended r v := by rw [stage, hstage, Stage.next, hnext]
    -- the loop stands there still when it has ended as the wait does
    have hlate := stage_of_ended hstop (Nat.le_max_left (m + 1) (n + 1))
    rw [stage_of_ended hended (Nat.le_max_right (m + 1) (n + 1))] at hlate
    rw [hstop, hlate]
  case died =>
    intro hearly
    obtain ⟨d, u, hstage⟩ := waiting_of_not_endsEarly
      (fun m hm => hearly m (Nat.le_of_lt hm)) hfirst
    refine ⟨⟨d, u, hstage⟩, ?_⟩
    have hstep := step_of_waiting hstage
    rw [hended] at hstep
    generalize (drain x c polls w).1 = r at hstep ⊢
    cases hstep with
    | early h => exact absurd h (hearly n (Nat.le_refl n) d u hstage)
    | died =>
      have hconfig : u.handle.config = w.handle.config :=
        (congrArg Handle.config (said_of_waiting hstage).2 :)
      rw [hconfig]

/-- A unit on a kernel that lives through one silent poll. -/
def hasty : Execution := ⟨{ patience := 1 }, .ignoring, 0, "msg-1", 0.0, none⟩

/-- An answer to another request, and then a death that the manager notices but not the client. -/
def unnoticedDeath : List Poll :=
  [⟨some 0.25, .message fun _ => Kernel.idleMessage "msg-7"⟩, ⟨none, .death ⟨false, true⟩⟩,
    ⟨none, .empty⟩]

/-- A connection to a kernel that was started here. -/
def started : World := { quiet with handle := { quiet.handle with manager := some {} } }

/-- The wait for a kernel that was started here ends at this death; the one for another kernel goes
on until its client notices. -/
theorem drain_ends_unnoticedDeath :
    (Ending hasty unnoticedDeath { collector := { limit := 10 } } started 1 ∧
      (drain hasty { collector := { limit := 10 } } unnoticedDeath started).1 =
        .error (.transport (.died "python3"))) ∧
    Ending hasty unnoticedDeath { collector := { limit := 10 } } quiet 4 ∧
      (drain hasty { collector := { limit := 10 } } unnoticedDeath quiet).1 =
        .error (.transport (.died "python3")) := by
  have hloud (w : World) : ¬ FindsDead hasty unnoticedDeath w 0 := fun h => h.1 _ rfl
  refine ⟨⟨?_, rfl⟩, ?_, rfl⟩
  · obtain ⟨n, -, hending⟩ :=
      drain_ends hasty unnoticedDeath { collector := { limit := 10 } } started
    have hdead : FindsDead hasty unnoticedDeath started 1 := by
      refine ⟨?_, rfl⟩
      rintro p ⟨⟩
      exact trivial
    match n, hending with
    | 0, hending => exact absurd hending.first.1 (hloud started)
    | 1, hending => exact hending
    | n + 2, hending => exact absurd hdead (hending.first.2 1 (by omega))
  · obtain ⟨n, hn, hending⟩ :=
      drain_ends hasty unnoticedDeath { collector := { limit := 10 } } quiet
    match n, hn, hending with
    | 0, _, hending => exact absurd hending.first.1 (hloud quiet)
    | 1, _, hending => exact nomatch hending.first.1.2
    | 2, _, hending => exact nomatch hending.first.1.2
    | 3, _, hending => exact nomatch hending.first.1.2
    | 4, _, hending => exact hending

end KernelJob.Session
