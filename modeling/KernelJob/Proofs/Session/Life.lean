import KernelJob.Proofs.Session.Connect
import KernelJob.Proofs.Session.Unit

/-! # The life of a handle

A handle that connecting has given is used: code is executed on it and it is closed, in any order
and any number of times. The kernel may behave differently at each use, and between two uses time
passes, the kernel dies, or the run is cancelled.

* **`Use`** — what is done to a handle; **`World.used`** — the world after some uses.
* **`Session.Open`**, **`Session.Shut`** — what holds of a handle until it is closed, and from then
  on. `Open.perform`, `Open.close` and `Shut.perform` are the steps between them.
* **`Session.connected_handle_life`** — a handle is connected until it is closed for the first time
  and closed ever after, and only that closing releases anything. -/

namespace KernelJob

/-- **What is done to a handle**, and what happens to the world in the meantime. -/
inductive Use
  /-- A unit is executed. -/
  | execute (k : Kernel) (sink : Sink) (task : Text) (unit : CodeUnit)
  /-- The handle is closed. -/
  | close (k : Kernel)
  /-- Time passes between two calls. -/
  | meanwhile (clock : Float) (cancelled : Bool) (alive : Liveness) (files : FileTree)

namespace Use

/-- Whether a use closes the handle. -/
def isClose : Use → Bool
  | .close _ => true
  | _ => false

/-- The world after a use, whatever the use ends with. -/
def perform : Use → World → World
  | .execute k sink task unit, w => (Session.execute k sink task unit w).2
  | .close k, w => (Session.close k w).2
  | .meanwhile clock cancelled alive files, w =>
    { w with clock := clock, cancelled := cancelled, alive := alive, files := files }

end Use

/-- The world after some uses of its handle. -/
def World.used (w : World) (uses : List Use) : World := uses.foldl (fun w u => u.perform w) w

@[simp] theorem World.used_nil (w : World) : w.used [] = w := rfl

@[simp] theorem World.used_cons (w : World) (u : Use) (uses : List Use) :
    w.used (u :: uses) = (u.perform w).used uses := rfl

theorem World.used_append (w : World) (uses more : List Use) :
    w.used (uses ++ more) = (w.used uses).used more := List.foldl_append

namespace Session

open KernelJob.Action ReleaseStep

variable {w₀ w : World}

/-! ## Until the handle is closed -/

/-- An attempt to interrupt a kernel releases nothing. -/
theorem isRelease_of_mem_interruptCalls {h : Handle} {c : Call} (hc : c ∈ h.interruptCalls) :
    c.isRelease = false := by
  unfold Handle.interruptCalls at hc
  split at hc
  · rw [List.mem_singleton.mp hc]
    rfl
  · cases hc

/-- **A handle that has not been closed** since the world `w₀`: it is connected, and no call since
then belongs to a release. -/
structure Open (w₀ w : World) : Prop where
  state : w.handle.state = .connected
  calls : ∃ cs, w.calls = w₀.calls ++ cs ∧ ∀ c ∈ cs, c.isRelease = false

/-- A handle is open to begin with. -/
theorem Open.refl (hw : w.handle.state = .connected) : Open w w :=
  ⟨hw, [], (List.append_nil _).symm, fun _ hc => absurd hc List.not_mem_nil⟩

/-- No call belongs to a release since a handle is open. -/
theorem Open.isRelease_callsSince (h : Open w₀ w) :
    ∀ c ∈ World.callsSince w₀ w, c.isRelease = false := by
  obtain ⟨cs, hcs, hrelease⟩ := h.calls
  rw [World.callsSince_eq hcs]
  exact hrelease

/-- A handle stays open where the calls since then release nothing. -/
theorem Open.steady {v : World} (h : Open w₀ v) {cs : List Call} (hs : Steady v cs w)
    (hcs : ∀ c ∈ cs, c.isRelease = false) : Open w₀ w := by
  obtain ⟨ds, hds, hrelease⟩ := h.calls
  refine ⟨hs.handleState.trans h.state, ds ++ cs, ?_, ?_⟩
  · rw [hs.calls, hds, List.append_assoc]
  · exact List.forall_mem_append.mpr ⟨hrelease, hcs⟩

/-- Executing a unit leaves the handle open, whether it ends with a result or with a failure. -/
theorem Open.execute (h : Open w₀ w) (k : Kernel) (sink : Sink) (task : Text) (unit : CodeUnit) :
    Open w₀ (execute k sink task unit w).2 := by
  have hexecute : ∀ c ∈ [Call.execute unit.source], c.isRelease = false := by simp [Call.isRelease]
  refine ((execute_ensures k sink task unit h.state).mono ?_ ?_).after
  · intro r w' hr
    exact h.steady hr.1 hexecute
  · -- a failure comes after an attempt to interrupt the kernel, or without one
    intro e w' he
    obtain ⟨cs, hcs, hs⟩ := he.steady
    refine h.steady hs ?_
    intro c hc
    rcases List.mem_cons.mp hc with rfl | hc
    · rfl
    · rcases hcs with rfl | rfl
      · cases hc
      · exact isRelease_of_mem_interruptCalls hc

/-- **A use other than closing leaves a handle open.** -/
theorem Open.perform (h : Open w₀ w) {u : Use} (hu : u.isClose = false) :
    Open w₀ (u.perform w) := by
  cases u with
  | execute k sink task unit => exact h.execute k sink task unit
  | close k => cases hu
  | meanwhile clock cancelled alive files => exact ⟨h.state, h.calls⟩

/-! ## From then on -/

/-- **A handle that has been closed** since the world `w₀`: of the calls since then the first ones
belong to no release, and the others are different calls of one. -/
structure Shut (w₀ w : World) : Prop where
  state : w.handle.state = .closed
  calls : ∃ cs released, w.calls = w₀.calls ++ (cs ++ released) ∧
    (∀ c ∈ cs, c.isRelease = false) ∧ (∀ c ∈ released, c.isRelease = true) ∧ released.Nodup

/-- The calls for a release are different from each other. -/
theorem nodup_carriedOut (h : Handle) (k : Kernel) : (carriedOut (h.releasePlan k)).Nodup :=
  (h.nodup_releasePlan k).sublist (carriedOut_sublist _)

/-- **The first closing** shuts an open handle, whether it completes or not. -/
theorem Open.close (h : Open w₀ w) (k : Kernel) : Shut w₀ (close k w).2 := by
  have hclose : Session.close k w = release k w := by
    rw [close_apply, if_neg (by simp [h.state])]
  have hreleased : Releasing w (carriedOut (w.handle.releasePlan k)) (release k w).2 :=
    ((release_ensures k w).mono (fun _ _ hr => hr.1) fun _ _ hr => hr.1).after
  obtain ⟨cs, hcs, hrelease⟩ := h.calls
  rw [hclose]
  refine ⟨hreleased.closed, cs, carriedOut (w.handle.releasePlan k), ?_, hrelease, ?_, ?_⟩
  · rw [hreleased.calls, hcs, List.append_assoc]
  · exact isRelease_carriedOut w.handle.isRelease_releasePlan
  · exact nodup_carriedOut w.handle k

/-- A closed handle executes nothing. -/
theorem execute_of_closed (hw : w.handle.state = .closed) (k : Kernel) (sink : Sink) (task : Text)
    (unit : CodeUnit) :
    execute k sink task unit w = (.error (.transport (.notConnected .closed)), w) := by
  unfold execute
  rw [bind_apply, world_apply]
  dsimp only
  rw [hw, if_neg (by simp)]
  rfl

/-- A closed handle is not released again. -/
theorem close_of_closed (hw : w.handle.state = .closed) (k : Kernel) : close k w = (.ok [], w) := by
  rw [close_apply, if_pos hw]

/-- **No use changes a closed handle or makes a call.** -/
theorem perform_of_closed (hw : w.handle.state = .closed) (u : Use) :
    (u.perform w).handle = w.handle ∧ (u.perform w).calls = w.calls := by
  cases u with
  | execute k sink task unit =>
    rw [Use.perform, execute_of_closed hw]
    exact ⟨rfl, rfl⟩
  | close k =>
    rw [Use.perform, close_of_closed hw]
    exact ⟨rfl, rfl⟩
  | meanwhile clock cancelled alive files => exact ⟨rfl, rfl⟩

/-- Nor do any uses one after the other. -/
theorem used_of_closed (hw : w.handle.state = .closed) (uses : List Use) :
    (w.used uses).handle = w.handle ∧ (w.used uses).calls = w.calls := by
  induction uses generalizing w with
  | nil => exact ⟨rfl, rfl⟩
  | cons u uses ih =>
    obtain ⟨hhandle, hcalls⟩ := perform_of_closed hw u
    obtain ⟨hhandle', hcalls'⟩ := ih (w := u.perform w) (by rw [hhandle, hw])
    exact ⟨hhandle'.trans hhandle, hcalls'.trans hcalls⟩

/-- A closed handle stays shut. -/
theorem Shut.used (h : Shut w₀ w) (uses : List Use) : Shut w₀ (w.used uses) := by
  obtain ⟨hhandle, hcalls⟩ := used_of_closed h.state uses
  obtain ⟨cs, released, hcs, hrest⟩ := h.calls
  exact ⟨by rw [hhandle, h.state], cs, released, hcalls.trans hcs, hrest⟩

/-! ## The whole life -/

/-- Uses among which none closes the handle leave it open. -/
theorem Open.used (h : Open w₀ w) {uses : List Use} (hu : uses.any Use.isClose = false) :
    Open w₀ (w.used uses) := by
  induction uses generalizing w with
  | nil => exact h
  | cons u uses ih =>
    rw [List.any_cons, Bool.or_eq_false_iff] at hu
    exact ih (h.perform hu.1) hu.2

/-- Uses among which one closes the handle have a first one that does. -/
theorem exists_first_close {uses : List Use} (hu : uses.any Use.isClose = true) :
    ∃ first k rest, uses = first ++ .close k :: rest ∧ first.any Use.isClose = false := by
  induction uses with
  | nil => cases hu
  | cons u uses ih =>
    by_cases hclose : u.isClose = true
    · obtain ⟨k, rfl⟩ : ∃ k, u = .close k := by
        cases u with
        | close k => exact ⟨k, rfl⟩
        | _ => cases hclose
      exact ⟨[], k, uses, rfl, rfl⟩
    · rw [List.any_cons, Bool.eq_false_iff.mpr hclose, Bool.false_or] at hu
      obtain ⟨first, k, rest, rfl, hfirst⟩ := ih hu
      refine ⟨u :: first, k, rest, rfl, ?_⟩
      rw [List.any_cons, Bool.eq_false_iff.mpr hclose, hfirst]
      rfl

/-- Uses among which one closes the handle leave it shut. -/
theorem Open.used_close (h : Open w₀ w) {uses : List Use} (hu : uses.any Use.isClose = true) :
    Shut w₀ (w.used uses) := by
  obtain ⟨first, k, rest, rfl, hfirst⟩ := exists_first_close hu
  rw [World.used_append, World.used_cons]
  exact ((h.used hfirst).close k).used rest

/-- **The life of a handle** that was connected in the world `w`, over some uses. -/
structure Life (w : World) (uses : List Use) : Prop where
  /-- The handle is connected until it is closed, and closed ever after. -/
  state : (w.used uses).handle.state =
    if uses.any Use.isClose then .closed else .connected
  /-- No call of a release is made twice. -/
  once : ((World.callsSince w (w.used uses)).filter Call.isRelease).Nodup
  /-- Nothing is released as long as the handle is not closed. -/
  unclosed : uses.any Use.isClose = false →
    ∀ c ∈ World.callsSince w (w.used uses), c.isRelease = false
  /-- Nothing is released before the handle is closed for the first time, and nothing at all is
  called after that. -/
  first : ∀ first k rest, uses = first ++ .close k :: rest → first.any Use.isClose = false →
    (∀ c ∈ World.callsSince w (w.used first), c.isRelease = false) ∧
      (w.used uses).calls = (close k (w.used first)).2.calls
  /-- A handle that has been closed executes nothing, and it is not released again. -/
  closed : uses.any Use.isClose = true →
    (∀ k sink task unit, execute k sink task unit (w.used uses) =
      (.error (.transport (.notConnected .closed)), w.used uses)) ∧
    ∀ k, close k (w.used uses) = (.ok [], w.used uses)

/-- **The life of a handle that connecting has given**: it is connected between its uses until it is
closed for the first time, and closed ever after. That closing releases, once, and no use after it
calls anything. -/
theorem connected_handle_life (k : Kernel) (config : RunConfig) (w : World)
    (h : (connect k config w).1 = .ok ()) (uses : List Use) :
    Life (connect k config w).2 uses := by
  have hopen : (connect k config w).2.handle.state = .connected := by
    obtain ⟨directory, hreached⟩ := (ensures_iff.mp (connect_ensures k config w)).1 () h
    rw [hreached.handle]
    rfl
  -- from here on only the connected handle matters
  generalize (connect k config w).2 = v at hopen
  have hstart := Open.refl hopen
  constructor
  case state =>
    cases hu : uses.any Use.isClose with
    | false => exact (hstart.used hu).state
    | true => exact (hstart.used_close hu).state
  case once =>
    cases hu : uses.any Use.isClose with
    | false =>
      have hnone : (World.callsSince v (v.used uses)).filter Call.isRelease = [] := by
        simpa using (hstart.used hu).isRelease_callsSince
      rw [hnone]
      exact List.nodup_nil
    | true =>
      obtain ⟨cs, released, hcs, hrelease, hreleased, hnodup⟩ := (hstart.used_close hu).calls
      have hnone : cs.filter Call.isRelease = [] := by simpa using hrelease
      rw [World.callsSince_eq hcs, List.filter_append, hnone, List.filter_eq_self.mpr hreleased]
      exact hnodup
  case unclosed =>
    intro hu
    exact (hstart.used hu).isRelease_callsSince
  case first =>
    rintro first k rest rfl hfirst
    have hfirstOpen := hstart.used hfirst
    refine ⟨hfirstOpen.isRelease_callsSince, ?_⟩
    rw [World.used_append, World.used_cons]
    exact (used_of_closed (hfirstOpen.close k).state rest).2
  case closed =>
    intro hu
    have hshut := (hstart.used_close hu).state
    exact ⟨fun k sink task unit => execute_of_closed hshut k sink task unit,
      fun k => close_of_closed hshut k⟩

/-- Uses of a handle: its kernel is gone when code is sent to it, then the user interrupts the
closing, and the handle is used and closed again. -/
def interruptedUses : List Use :=
  [.execute { responses := [{ code := "1", error := some ⟨.socket, "gone"⟩ }] } .ignoring "t"
      ⟨0, "1", false⟩,
    .meanwhile 7.5 true false {}, .close { stopError := some ⟨.interrupt, "stop"⟩ },
    .execute {} .ignoring "t" ⟨1, "2", false⟩, .close {}]

/-- The handle of a kernel that was started is closed after them, and neither is its kernel shut
down then nor ever after. -/
theorem connected_handle_life_interrupted :
    (connect {} startedHere { handle := { config := startedHere } }).1 = .ok () ∧
    Life (connect {} startedHere { handle := { config := startedHere } }).2 interruptedUses ∧
    (World.callsSince (connect {} startedHere { handle := { config := startedHere } }).2
      ((connect {} startedHere { handle := { config := startedHere } }).2.used interruptedUses)) =
        [.execute "1", .stopChannels] := by
  have hconnected : (connect {} startedHere { handle := { config := startedHere } }).1 = .ok () :=
    rfl
  exact ⟨hconnected, connected_handle_life {} startedHere _ hconnected interruptedUses, rfl⟩

end Session

end KernelJob
