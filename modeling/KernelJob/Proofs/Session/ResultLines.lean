import KernelJob.Proofs.Session.Lines

/-! # The lines of a result

The output of a result is one text, in which the lines that were kept are joined with newlines. Its
lines are read off that text again, and every line boundary of Unicode counts then. So they need not
be the lines that were kept: a line of streamed text may hold a carriage return or a form feed, and
an empty last line leaves no trace.

* **`Session.LimitHolds`** — a unit whose result has the lines that its receiver was given, and no
  more than the limit.
* **`Session.limitHolds_iff`** — this is so if and only if the lines given can be read back. -/

namespace KernelJob

/-- **The lines of a result are those that it keeps** if and only if these can be read back. -/
theorem UnitResult.Keeps.lines_eq_iff {r : UnitResult} {kept : List Text} (h : r.Keeps kept) :
    r.lines = kept ↔ Text.ReadBack kept := by
  rw [lines, h.1]
  exact Text.lines_join_eq_iff kept

namespace Session

open KernelJob.Action

/-- The result with which a unit ends, whether its code failed or not. -/
def endResult? : Except Failure UnitResult → Option UnitResult
  | .ok r => some r
  | .error e => Run.faultResult? e

/-- **The limit for lines holds on the result of a unit**: whatever result it ends with, its lines
are those that the receiver was given, and no more than the limit. -/
def LimitHolds (k : Kernel) (sink : Sink) (task : Text) (unit : CodeUnit) (w : World) : Prop :=
  ∀ r, endResult? (execute k sink task unit w).1 = some r →
    r.lines = World.linesSince w (execute k sink task unit w).2 ∧
      r.lines.length ≤ w.handle.config.maxResults.toNat

variable {sink : Sink}

/-- A result keeps what the receiver of a unit was given, and this is never more than the limit. -/
theorem endResult?_keeps (hs : sink.FailsPlainly) (k : Kernel) (task : Text) (unit : CodeUnit)
    (w : World) {r : UnitResult} (hr : endResult? (execute k sink task unit w).1 = some r) :
    r.Keeps (World.linesSince w (execute k sink task unit w).2) ∧
      (World.linesSince w (execute k sink task unit w).2).length ≤
        w.handle.config.maxResults.toNat := by
  have hshows := execute_shows hs k task unit w
  rw [ensures_iff] at hshows
  obtain ⟨hok, herror⟩ := hshows
  cases hend : (execute k sink task unit w).1 with
  | ok r' =>
    rw [hend] at hr
    obtain rfl : r' = r := Option.some.inj hr
    obtain ⟨kept, hlines, hkeeps, hlength⟩ := hok r' hend
    rw [World.linesSince_eq hlines]
    exact ⟨hkeeps, hlength⟩
  | error e =>
    rw [hend] at hr
    obtain ⟨kept, hlines, hkeeps⟩ := herror e hend
    rw [World.linesSince_eq hlines]
    exact hkeeps r hr

/-- **The limit for lines holds on the result of a unit** if and only if the lines that its receiver
was given can be read back: none of them holds a line boundary, and the last one is not empty. -/
theorem limitHolds_iff (hs : sink.FailsPlainly) (k : Kernel) (task : Text) (unit : CodeUnit)
    (w : World) :
    LimitHolds k sink task unit w ↔
      ∀ r, endResult? (execute k sink task unit w).1 = some r →
        Text.ReadBack (World.linesSince w (execute k sink task unit w).2) := by
  constructor
  · intro h r hr
    obtain ⟨hkeeps, -⟩ := endResult?_keeps hs k task unit w hr
    exact hkeeps.lines_eq_iff.mp (h r hr).1
  · intro h r hr
    obtain ⟨hkeeps, hlength⟩ := endResult?_keeps hs k task unit w hr
    have hlines := hkeeps.lines_eq_iff.mpr (h r hr)
    refine ⟨hlines, ?_⟩
    rw [hlines]
    exact hlength

/-- A kernel that answers a line of code by printing a text. -/
def printing (t : Text) : Kernel where
  responses := [{
    code := "1"
    polls := [⟨none, .message fun request => .object [
      ("header", .object [("msg_type", .text "stream")]),
      ("parent_header", .object [("msg_id", .text request)]),
      ("content", .object [("text", .text t)])]⟩] }]

/-- A connection with a limit for lines. -/
def limited (m : Int) : World where
  handle := {
    config := { kernel := "python3", workspace := .ofText "ws", maxResults := m }
    state := .connected }

/-- Three lines, one of them empty, are within the limit and can be read back. -/
theorem limitHolds_threeLines :
    Sink.ignoring.FailsPlainly ∧
      LimitHolds (printing "a\n\nb") .ignoring "t" ⟨0, "1", false⟩ (limited 3) ∧
      World.linesSince (limited 3)
        (execute (printing "a\n\nb") .ignoring "t" ⟨0, "1", false⟩ (limited 3)).2 =
          ([("a" : Text), [], "b"] : List Text) := by
  have hplain : Sink.ignoring.FailsPlainly := fun _ _ _ he => by cases he
  refine ⟨hplain, (limitHolds_iff hplain _ _ _ _).mpr fun r hr => ?_, by rfl⟩
  decide

/-- A carriage return within a line makes two lines of it in the result: with a limit of one line
the result has more. -/
theorem not_limitHolds_carriageReturn :
    ¬ LimitHolds (printing "a\u000db\n") .ignoring "t" ⟨0, "1", false⟩ (limited 1) := by
  intro h
  have hr : endResult? (execute (printing "a\u000db\n") .ignoring "t" ⟨0, "1", false⟩
      (limited 1)).1 = some { sequenceNumber := 0, output := "a\u000db" } := by decide +kernel
  have hlength := (h _ hr).2
  revert hlength
  decide

end Session

end KernelJob
