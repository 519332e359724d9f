import KernelJob.Proofs.Run.Built

/-! # The course of a run

What a run does to the outside is a list of events. A rule says which events may come next, before
and after the run is cancelled, and the trace of a world tells whether the rule was followed.

* **`EventRule.Follows`** — events that follow a rule, one after the other.
* **`Course rule w₀ w`** — the events since `w₀` follow the rule, and the run is cancelled if and
  only if it was before or is cancelled by one of them.
* **`Course.keptByRunning`** — a rule that allows the elementary steps of a run is followed by the
  whole run. -/

namespace KernelJob

/-- Whether an event is the moment of cancellation. -/
def Event.isCancel : Event → Bool
  | .cancel => true
  | _ => false

/-- The source that an event submits. -/
def Event.source? (e : Event) : Option Text := e.call?.bind Call.source?

/-- **The events since an earlier world.** -/
def World.eventsSince (w₀ w : World) : List Event := w.trace.drop w₀.trace.length

/-- The events that follow those of the earlier world are the events since. -/
theorem World.eventsSince_eq {w₀ w : World} {es : List Event} (h : w.trace = w₀.trace ++ es) :
    eventsSince w₀ w = es := by
  rw [eventsSince, h, List.drop_left]

/-- **A rule for events**: which of them may come, in a run that is not cancelled and in one that
is. -/
def EventRule : Type := Bool → Event → Prop

namespace EventRule

/-- **Events that follow a rule**, from a run that is or is not cancelled. -/
def Follows (rule : EventRule) : Bool → List Event → Prop
  | _, [] => True
  | cancelled, e :: es => rule cancelled e ∧ Follows rule (cancelled || e.isCancel) es

variable {rule : EventRule} {cancelled : Bool} {es fs : List Event} {e : Event}

/-- Two lists of events follow a rule one after the other. -/
theorem follows_append :
    rule.Follows cancelled (es ++ fs) ↔
      rule.Follows cancelled es ∧ rule.Follows (cancelled || es.any Event.isCancel) fs := by
  induction es generalizing cancelled with
  | nil => simp [Follows]
  | cons e es ih =>
    rw [List.cons_append, Follows, Follows, ih, List.any_cons, Bool.or_assoc, and_assoc]

/-- One more event follows a rule if it may come next. -/
theorem Follows.concat (h : rule.Follows cancelled es)
    (he : rule (cancelled || es.any Event.isCancel) e) : rule.Follows cancelled (es ++ [e]) :=
  follows_append.mpr ⟨h, he, trivial⟩

/-- Every event that follows a rule was allowed by it, before or after cancellation. -/
theorem Follows.of_mem (h : rule.Follows cancelled es) (he : e ∈ es) : ∃ b, rule b e := by
  induction es generalizing cancelled with
  | nil => cases he
  | cons f es ih =>
    rcases List.mem_cons.mp he with rfl | he
    · exact ⟨_, h.1⟩
    · exact ih h.2 he

/-- After cancellation every event is one that the rule allows then. -/
theorem Follows.of_mem_cancelled (h : rule.Follows true es) (he : e ∈ es) : rule true e := by
  induction es with
  | nil => cases he
  | cons f es ih =>
    rcases List.mem_cons.mp he with rfl | he
    · exact h.1
    · exact ih h.2 he

end EventRule

/-- **The course of events from an earlier world**: the events since follow a rule, and the run is
cancelled exactly if it was before or one of them cancels it. -/
def Course (rule : EventRule) (w₀ w : World) : Prop :=
  ∃ es, w.trace = w₀.trace ++ es ∧ w.cancelled = (w₀.cancelled || es.any Event.isCancel) ∧
    rule.Follows w₀.cancelled es

namespace Course

variable {rule : EventRule} {w₀ w : World} {sink : Sink}

/-- Nothing has happened yet. -/
theorem refl (rule : EventRule) (w : World) : Course rule w w :=
  ⟨[], (List.append_nil _).symm, by simp, trivial⟩

/-- An event that may come next, and that does not cancel the run. -/
theorem push (h : Course rule w₀ w) {e : Event} (he : e.isCancel = false)
    (hrule : rule w.cancelled e) : Course rule w₀ (w.push e) := by
  obtain ⟨es, htrace, hcancelled, hfollows⟩ := h
  rw [hcancelled] at hrule
  refine ⟨es ++ [e], ?_, ?_, hfollows.concat hrule⟩
  · rw [World.push, htrace, List.append_assoc]
  · rw [World.push, List.any_append, List.any_cons, he, List.any_nil, Bool.or_false, Bool.or_false]
    exact hcancelled

/-- The run is cancelled, if that may come next. -/
theorem cancel (h : Course rule w₀ w) (hrule : rule w.cancelled .cancel) :
    Course rule w₀ ({ w with cancelled := true }.push .cancel) := by
  obtain ⟨es, htrace, hcancelled, hfollows⟩ := h
  rw [hcancelled] at hrule
  refine ⟨es ++ [.cancel], ?_, ?_, hfollows.concat hrule⟩
  · show w.trace ++ _ = _
    rw [htrace, List.append_assoc]
  · rw [List.any_append]
    simp [World.push, Event.isCancel]

/-- **Keeping to a rule.** A rule that allows the events of some powers is kept to within them. -/
theorem keptBy {p : Powers} (hs : sink.NeverCancels) (hsubmit : p.submit = false)
    (hcall : ∀ b e, e.source? = none → e.poll? = none → e.isCancel = false → rule b e)
    (hcancel : p.cancel = true → ∀ b, rule b .cancel)
    (hpoll : p.wait = true → ∀ b poll, rule b (.poll poll)) :
    Action.KeptBy sink p (Course rule w₀) where
  congr v w hv htrace hcancelled _ := by
    obtain ⟨es, hes⟩ := hv
    exact ⟨es, by rw [htrace]; exact hes.1, by rw [hcancelled]; exact hes.2.1, hes.2.2⟩
  step s hs' w hw := by
    cases s with
    | record r => exact hw.push rfl (hcall _ _ rfl rfl rfl)
    | line t =>
      rw [Elementary.perform, Action.emit_apply, World.emitted_of_neverCancels hs]
      exact hw.push rfl (hcall _ _ rfl rfl rfl)
    | call c =>
      rw [Powers.Allows] at hs'
      split at hs'
      · rw [hsubmit] at hs'
        cases hs'
      · rename_i hc
        exact hw.push rfl (hcall _ _ (Option.not_isSome_iff_eq_none.mp hc) rfl rfl)
    | poll poll => exact hw.push rfl (hpoll hs' _ poll)
    | cancel => exact hw.cancel (hcancel hs' _)
    | die said => exact hw

/-- **A rule for runs**: one that allows everything but the submission of code after cancellation.
-/
theorem keptByRunning (hs : sink.NeverCancels)
    (hcall : ∀ b e, e.source? = none → e.poll? = none → e.isCancel = false → rule b e)
    (hcancel : ∀ b, rule b .cancel) (hpoll : ∀ b poll, rule b (.poll poll))
    (hexecute : ∀ source, rule false (.call (.execute source))) :
    KeptByRunning sink (Course rule w₀) where
  waiting := keptBy hs rfl hcall (fun _ => hcancel) fun _ => hpoll
  execute _ source hc hw := hw.push rfl (by rw [hc]; exact hexecute source)

end Course

end KernelJob
