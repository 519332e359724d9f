import KernelJob.Proofs.Output.Unlimited
import KernelJob.Proofs.Text.Lines
import KernelJob.Proofs.World
import KernelJob.Session.Execute

/-! # Output under two limits

What is kept of the output of a unit under a limit is the beginning of what is kept under a larger
one. Lines hold no newlines, so that an output text says which lines were kept.

* **`Unlimited.SingleLines`** — a collector without a limit that holds nothing but single lines.
* **`UnitResult.Alike`** — two results of a unit under two limits.
* **`UnitResult.Abridges`** — of the lines of one result another one keeps the first.
* **`firstLines`** — the events of a unit, with the first of its lines. -/

namespace KernelJob

namespace Unlimited

/-- **A collector that holds nothing but single lines**, the open one included. -/
def SingleLines (o : Unlimited) : Prop := (∀ line ∈ o.lines, newline ∉ line) ∧ newline ∉ o.pending

/-- A collector begins without lines. -/
theorem singleLines_start : SingleLines {} :=
  ⟨fun _ h => absurd h List.not_mem_nil, List.not_mem_nil⟩

/-- The open line is a single line. -/
theorem newline_notMem_of_mem_openLine {pending line : Text} (h : newline ∉ pending)
    (hline : line ∈ openLine pending) : newline ∉ line := by
  rw [openLine] at hline
  split at hline
  · cases hline
  · rwa [List.mem_singleton.mp hline]

/-- **Output is cut into single lines.** -/
theorem SingleLines.step {o : Unlimited} (h : o.SingleLines) (s : OutputStep) :
    (o.step s).SingleLines := by
  obtain ⟨hlines, hpending⟩ := h
  have hclosed : ∀ line ∈ o.lines ++ openLine o.pending, newline ∉ line := by
    intro line hline
    rcases List.mem_append.mp hline with hline | hline
    · exact hlines line hline
    · exact newline_notMem_of_mem_openLine hpending hline
  cases s with
  | text t =>
    have hpieces : ∀ piece ∈ Text.splitOn newline (o.pending ++ t), newline ∉ piece :=
      fun _ hpiece => Text.notMem_of_mem_splitOn hpiece
    have hne := Text.splitOn_ne_nil newline (o.pending ++ t)
    constructor
    · intro line hline
      rcases List.mem_append.mp hline with hline | hline
      · exact hlines line hline
      · exact hpieces line (List.dropLast_subset _ hline)
    · show newline ∉ (Text.splitOn newline (o.pending ++ t)).getLast?.getD []
      rw [List.getLast?_eq_some_getLast hne, Option.getD_some]
      exact hpieces _ (List.getLast_mem hne)
  | block t =>
    refine ⟨fun line hline => ?_, List.not_mem_nil⟩
    rcases List.mem_append.mp hline with hline | hline
    · exact hclosed line hline
    · exact Text.newline_notMem_of_mem_lines hline
  | flush => exact ⟨hclosed, List.not_mem_nil⟩

end Unlimited

/-! ## Results -/

/-- **Two results of a unit under the limits `m` and `m'`** agree on everything but the output, and
there each keeps the first of the same lines. -/
structure UnitResult.Alike (m m' : Nat) (r r' : UnitResult) : Prop where
  sequenceNumber : r.sequenceNumber = r'.sequenceNumber
  outcome : r.outcome = r'.outcome
  error : r.error = r'.error
  elapsed : r.elapsed = r'.elapsed
  output : ∃ lines : List Text, (∀ line ∈ lines, newline ∉ line) ∧
    r.output = Text.join [newline] (lines.take m) ∧ r.truncated = decide (m < lines.length) ∧
    r'.output = Text.join [newline] (lines.take m') ∧ r'.truncated = decide (m' < lines.length)

/-- **The results that two limits give** of what a collector without a limit holds. -/
theorem Unlimited.SingleLines.alike {o : Unlimited} (h : o.SingleLines) (m m' : Nat)
    (unit elapsed : Int) (fault : Option CodeFault) :
    (Session.resultOf unit elapsed ⟨o.limitedTo m, fault⟩).Alike m m'
      (Session.resultOf unit elapsed ⟨o.limitedTo m', fault⟩) :=
  ⟨rfl, rfl, rfl, rfl, o.lines, h.1, rfl, rfl, rfl, rfl⟩

/-- **A result abridges another one** if it agrees with it on everything but the output, and of the
lines that the other one keeps it keeps the first `m`. -/
structure UnitResult.Abridges (m : Nat) (r r' : UnitResult) : Prop where
  sequenceNumber : r.sequenceNumber = r'.sequenceNumber
  outcome : r.outcome = r'.outcome
  error : r.error = r'.error
  elapsed : r.elapsed = r'.elapsed
  output : ∃ kept : List Text, (∀ line ∈ kept, newline ∉ line) ∧
    r'.output = Text.join [newline] kept ∧ r.output = Text.join [newline] (kept.take m)
  /-- Lines were dropped if there were more of them. -/
  truncated : r'.truncated = true → r.truncated = true

/-- The result under the smaller limit abridges that under the larger one. -/
theorem UnitResult.Alike.abridges {m m' : Nat} (hm : m ≤ m') {r r' : UnitResult}
    (h : r.Alike m m' r') : r.Abridges m r' := by
  obtain ⟨hnumber, houtcome, herror, helapsed, lines, hsingle, hr, ht, hr', ht'⟩ := h
  refine ⟨hnumber, houtcome, herror, helapsed, ⟨lines.take m', ?_, hr', ?_⟩, ?_⟩
  · exact fun line hline => hsingle line (List.mem_of_mem_take hline)
  · rw [hr, List.take_take, Nat.min_eq_left hm]
  · rw [ht, ht', decide_eq_true_iff, decide_eq_true_iff]
    exact fun h => Nat.lt_of_le_of_lt hm h

/-! ## Events -/

/-- **The events of a unit, with the first of its lines**: all events that are not lines, and as
many lines as a limit lets through. -/
def firstLines : Nat → List Event → List Event
  | _, [] => []
  | 0, .line _ :: es => firstLines 0 es
  | n + 1, .line t :: es => .line t :: firstLines n es
  | n, e :: es => e :: firstLines n es

/-- An event that is no line is let through. -/
theorem firstLines_cons {e : Event} (he : e.line? = none) (n : Nat) (es : List Event) :
    firstLines n (e :: es) = e :: firstLines n es := by
  cases e with
  | line t => cases he
  | _ => cases n <;> rfl

/-- The lines among some events and then more events. -/
theorem firstLines_append (n : Nat) (es fs : List Event) :
    firstLines n (es ++ fs) =
      firstLines n es ++ firstLines (n - (es.filterMap Event.line?).length) fs := by
  induction es generalizing n with
  | nil => rfl
  | cons e es ih =>
    cases he : e.line? with
    | none =>
      rw [List.cons_append, firstLines_cons he, firstLines_cons he, ih,
        List.filterMap_cons_none he, List.cons_append]
    | some t =>
      obtain ⟨t, rfl⟩ : ∃ t, e = .line t := by
        cases e with
        | line t => exact ⟨t, rfl⟩
        | _ => cases he
      rw [List.cons_append, List.filterMap_cons_some he, List.length_cons]
      cases n with
      | zero =>
        rw [firstLines, firstLines, ih, Nat.zero_sub, Nat.zero_sub]
      | succ n =>
        rw [firstLines, firstLines, ih, Nat.add_sub_add_right, List.cons_append]

/-- Of lines alone the first ones are let through. -/
theorem firstLines_map_line (n : Nat) (ts : List Text) :
    firstLines n (ts.map .line) = (ts.take n).map .line := by
  induction ts generalizing n with
  | nil => simp [firstLines]
  | cons t ts ih =>
    cases n with
    | zero => simpa [firstLines] using ih 0
    | succ n => simp [firstLines, ih]

/-- A limit lets everything through that is not a line. -/
theorem filterMap_firstLines {β : Type} {view : Event → Option β}
    (hview : ∀ t, view (.line t) = none) (n : Nat) (es : List Event) :
    (firstLines n es).filterMap view = es.filterMap view := by
  induction es generalizing n with
  | nil => cases n <;> rfl
  | cons e es ih =>
    cases e with
    | line t =>
      rw [List.filterMap_cons_none (hview t)]
      cases n with
      | zero => exact ih 0
      | succ n => rw [firstLines, List.filterMap_cons_none (hview t), ih]
    | _ => rw [firstLines_cons rfl, List.filterMap_cons, List.filterMap_cons, ih]

end KernelJob
