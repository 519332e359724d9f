import KernelJob.Output.Collector

/-! # The lines of a text

A text is cut into its lines, or into pieces at a separator. Lines that are joined with newlines are
cut apart again, and every line boundary of Unicode counts then. So the lines are found again only
if none of them holds such a boundary; an empty last line leaves no trace.

* **`Text.Unbroken`** — a text without a line boundary; the lines of a text are unbroken.
* **`Text.lines_of_unbroken`** — such a text is a single line, unless it is empty.
* **`Text.ReadBack`** — lines that are read back from the text that they are joined to.
* **`Text.lines_join_eq_iff`** — there are no others. -/

namespace KernelJob.Text

/-- The pieces of a cut text do not hold the separator. -/
theorem notMem_of_mem_splitOn {sep : CodePoint} {t piece : Text} (h : piece ∈ splitOn sep t) :
    sep ∉ piece := by
  induction t generalizing piece with
  | nil =>
    rw [splitOn, List.mem_singleton] at h
    simp [h]
  | cons c t ih =>
    obtain ⟨first, rest, ht⟩ := List.exists_cons_of_ne_nil (splitOn_ne_nil sep t)
    rw [ht] at ih
    rw [splitOn] at h
    split at h
    · rcases List.mem_cons.mp h with rfl | h
      · simp
      · exact ih (ht ▸ h)
    · rename_i hc
      rw [ht] at h
      rcases List.mem_cons.mp h with rfl | h
      · have hfirst := ih List.mem_cons_self
        simp [hfirst, Ne.symm hc]
      · exact ih (List.mem_cons_of_mem _ h)

/-- The lines of a text hold nothing that ends a line. -/
theorem isLineEnd_of_mem_linesFrom {start t line : Text} (hstart : ∀ c ∈ start, c.isLineEnd = false)
    (h : line ∈ linesFrom start t) : ∀ c ∈ line, c.isLineEnd = false := by
  have hreverse : ∀ {start : Text}, (∀ c ∈ start, c.isLineEnd = false) →
      ∀ c ∈ start.reverse, c.isLineEnd = false := fun h c hc => h c (List.mem_reverse.mp hc)
  have hnil : ∀ c ∈ ([] : Text), c.isLineEnd = false := fun _ hc => absurd hc List.not_mem_nil
  -- the first line is the one that has begun; the others begin empty
  fun_induction linesFrom start t with
  | case1 => cases h
  | case2 start =>
    obtain rfl := List.mem_singleton.mp h
    exact hreverse hstart
  | case3 start c hend hc d ds hd ih =>
    rcases List.mem_cons.mp h with rfl | h
    · exact hreverse hstart
    · exact ih hnil h
  | case4 start c hend hc d ds hd ih =>
    rcases List.mem_cons.mp h with rfl | h
    · exact hreverse hstart
    · exact ih hnil h
  | case5 start c hend hc =>
    obtain rfl := List.mem_singleton.mp h
    exact hreverse hstart
  | case6 start c cs hend hc ih =>
    rcases List.mem_cons.mp h with rfl | h
    · exact hreverse hstart
    · exact ih hnil h
  | case7 start c cs hend ih =>
    refine ih ?_ h
    intro d hd
    rcases List.mem_cons.mp hd with rfl | hd
    · exact Bool.eq_false_iff.mpr hend
    · exact hstart d hd

/-- The lines of a text hold no newline. -/
theorem newline_notMem_of_mem_lines {t line : Text} (h : line ∈ lines t) : newline ∉ line := by
  intro hmem
  have hend := isLineEnd_of_mem_linesFrom (fun _ hc => absurd hc List.not_mem_nil) h newline hmem
  revert hend
  decide

/-- **A text without a line boundary.** -/
def Unbroken (t : Text) : Prop := ∀ c ∈ t, c.isLineEnd = false

/-- **Lines that are read back** from the text that they are joined to: none of them holds a line
boundary, and the last one is not empty. -/
def ReadBack (ls : List Text) : Prop := (∀ l ∈ ls, Unbroken l) ∧ ls.getLast? ≠ some []

instance (t : Text) : Decidable (Unbroken t) := by
  unfold Unbroken
  infer_instance

instance (ls : List Text) : Decidable (ReadBack ls) := by
  unfold ReadBack
  infer_instance

/-- The lines of a text hold no line boundary. -/
theorem unbroken_of_mem_lines {t l : Text} (h : l ∈ lines t) : l.Unbroken :=
  isLineEnd_of_mem_linesFrom (fun _ hc => absurd hc List.not_mem_nil) h

/-- At its end a text has a last line, unless nothing of one has begun. -/
theorem linesFrom_nil (line : Text) :
    linesFrom line [] = if line.isEmpty then [] else [line.reverse] := rfl

/-- What holds no line boundary goes on with the line that has begun. -/
theorem linesFrom_append {t : Text} (h : t.Unbroken) (line rest : Text) :
    linesFrom line (t ++ rest) = linesFrom (t.reverse ++ line) rest := by
  induction t generalizing line with
  | nil => rfl
  | cons c t ih =>
    have hc : c.isLineEnd = false := h c List.mem_cons_self
    have ht : Unbroken t := fun d hd => h d (List.mem_cons_of_mem c hd)
    rw [List.cons_append, linesFrom.eq_def]
    dsimp only
    rw [if_neg (Bool.eq_false_iff.mp hc), ih ht]
    simp

/-- A newline ends the line that has begun. -/
theorem linesFrom_newline (line rest : Text) :
    linesFrom line (newline :: rest) = line.reverse :: linesFrom [] rest := by
  have hend : newline.isLineEnd = true := by decide
  have hval : newline.val ≠ 13 := by decide
  rw [linesFrom.eq_def]
  dsimp only
  rw [if_pos hend, if_neg hval]

/-- A text without a line boundary is one line, unless it is empty. -/
theorem lines_of_unbroken {t : Text} (h : t.Unbroken) : lines t = if t = [] then [] else [t] := by
  have happend := linesFrom_append h [] []
  rw [List.append_nil, List.append_nil] at happend
  rw [lines, happend, linesFrom_nil]
  simp

/-- The first of some joined lines is read back if it holds no line boundary. -/
theorem lines_join_cons_cons {l : Text} (h : l.Unbroken) (m : Text) (ls : List Text) :
    lines (join [newline] (l :: m :: ls)) = l :: lines (join [newline] (m :: ls)) := by
  rw [lines, join_cons_cons, List.append_assoc, linesFrom_append h, List.singleton_append,
    linesFrom_newline]
  simp [lines]

/-- Of lines without a boundary an empty last one is lost, and no other. -/
theorem lines_join_of_unbroken {ls : List Text} (h : ∀ l ∈ ls, Unbroken l) :
    lines (join [newline] ls) = if ls.getLast? = some [] then ls.dropLast else ls := by
  -- only the last line has no newline after it
  induction ls with
  | nil => rfl
  | cons l ls ih =>
    have hl : Unbroken l := h l List.mem_cons_self
    have hls : ∀ m ∈ ls, Unbroken m := fun m hm => h m (List.mem_cons_of_mem l hm)
    cases ls with
    | nil =>
      rw [join_singleton, lines_of_unbroken hl]
      simp
    | cons m ls =>
      rw [lines_join_cons_cons hl, ih hls, List.getLast?_cons_cons]
      by_cases hlast : (m :: ls).getLast? = some []
      · simp [hlast]
      · simp [hlast]

/-- **Joined lines are read back** if and only if none of them holds a line boundary and the last
one is not empty. -/
theorem lines_join_eq_iff (ls : List Text) : lines (join [newline] ls) = ls ↔ ReadBack ls := by
  constructor
  · intro h
    have hunbroken : ∀ l ∈ ls, Unbroken l := by
      intro l hl
      rw [← h] at hl
      exact unbroken_of_mem_lines hl
    refine ⟨hunbroken, fun hlast => ?_⟩
    -- an empty last line would be missing
    rw [lines_join_of_unbroken hunbroken, if_pos hlast] at h
    have hlength := congrArg List.length h
    have hne : ls ≠ [] := by
      rintro rfl
      cases hlast
    have hpos := List.length_pos_iff.mpr hne
    rw [List.length_dropLast] at hlength
    omega
  · rintro ⟨hunbroken, hlast⟩
    rw [lines_join_of_unbroken hunbroken, if_neg hlast]

end KernelJob.Text
