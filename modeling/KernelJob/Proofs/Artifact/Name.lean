import KernelJob.Artifact.Name
import KernelJob.Proofs.Path

/-! # Names for directories are tame

A label may hold anything: separators, dots, signs of the shell, nothing at all. What is made of it
is a single name that leads one step down and nowhere else. This rests on the order of the steps.
Code points are left out and replaced before the dots at the start are dropped, so that no dot comes
to the start afterwards, and nothing that was barred comes back.

* **`Tame`** — a name that leads one step down.
* **`nameCodePoint_notMem_barred`** — no code point of a name is a barred one.
* **`tame_fileName`** — the name for any label is tame. -/

namespace KernelJob

/-- **What no name holds**: the separators, the signs of the shell, braces and brackets, quotes, the
euro sign and the plain blank. -/
def barred : Text := "/\\$#%&<>*+=^€| \x7b\x7d[];!?\"'`:"

/-- **A tame name.** -/
structure Tame (name : Text) : Prop where
  /-- It is there. -/
  ne_nil : name ≠ []
  /-- It is one component. -/
  slash : CodePoint.ofChar '/' ∉ name
  backslash : CodePoint.ofChar '\\' ∉ name
  /-- It is not hidden, and is none of the two names made of dots. -/
  dot : name.head? ≠ some dot
  /-- It holds nothing that is barred. -/
  barred : ∀ c ∈ name, c ∉ barred

/-- **A tame name stands for itself in a path.** -/
theorem Tame.isPlain {name : Text} (h : Tame name) : Path.IsPlain name := by
  refine ⟨h.ne_nil, ?_, ?_, h.slash⟩
  · rintro rfl
    exact h.dot rfl
  · rintro rfl
    exact h.dot rfl

/-- A code point in a name is a parenthesis, an underscore, or stands as it stood: then it needed no
replacement. -/
theorem nameCodePoint_cases (c : CodePoint) :
    nameCodePoint c ∈ ("()_" : Text) ∨
      nameCodePoint c = c ∧ becomesUnderscore c = false ∧ c ∉ ("\x7b\x7d[]" : Text) := by
  unfold nameCodePoint
  by_cases hopening : c.val = 123 ∨ c.val = 91
  · rw [if_pos hopening]
    exact .inl (by decide)
  rw [if_neg hopening]
  by_cases hclosing : c.val = 125 ∨ c.val = 93
  · rw [if_pos hclosing]
    exact .inl (by decide)
  rw [if_neg hclosing]
  by_cases hunderscore : becomesUnderscore c = true
  · rw [if_pos hunderscore]
    exact .inl (by decide)
  rw [if_neg hunderscore]
  refine .inr ⟨rfl, by simpa using hunderscore, fun hmem => ?_⟩
  have hparens : ∀ d ∈ ("\x7b\x7d[]" : Text),
      (d.val = 123 ∨ d.val = 91) ∨ d.val = 125 ∨ d.val = 93 := by decide
  exact (hparens c hmem).elim hopening hclosing

/-- **No code point of a name is barred**, if those are left out that a name leaves out. -/
theorem nameCodePoint_notMem_barred {c : CodePoint} (h : isLeftOut c = false) :
    nameCodePoint c ∉ barred := by
  intro hbarred
  rcases nameCodePoint_cases c with hreplaced | ⟨hsame, hunderscore, hparens⟩
  · have hfree : ∀ d ∈ ("()_" : Text), d ∉ barred := by decide
    exact hfree _ hreplaced hbarred
  · -- what is barred is left out or replaced
    have hcovered : ∀ d ∈ barred, isLeftOut d = true ∨ becomesUnderscore d = true ∨
        d ∈ ("\x7b\x7d[]" : Text) := by decide
    rw [hsame] at hbarred
    rcases hcovered c hbarred with hleft | hblank | hparen
    · rw [h] at hleft
      exact nomatch hleft
    · rw [hunderscore] at hblank
      exact nomatch hblank
    · exact hparens hparen

/-- **The name for any label is tame.** -/
theorem tame_fileName (label : Text) : Tame (fileName label) := by
  have hunderscore : Tame "_" := by
    refine ⟨by decide, by decide, by decide, by decide, by decide⟩
  unfold fileName
  dsimp only
  generalize hwritten : (label.trim.filter (!isLeftOut ·)).map nameCodePoint = written
  have hfree : ∀ c ∈ written, c ∉ barred := by
    intro c hc
    rw [← hwritten] at hc
    obtain ⟨d, hd, rfl⟩ := List.mem_map.mp hc
    have hkept : isLeftOut d = false := by simpa using (List.mem_filter.mp hd).2
    exact nameCodePoint_notMem_barred hkept
  split
  · exact hunderscore
  · rename_i hne
    have hsubset : ∀ c ∈ written.dropWhile (· == dot), c ∉ barred := by
      intro c hc
      exact hfree c ((List.dropWhile_sublist _).subset hc)
    refine ⟨hne, ?_, ?_, ?_, hsubset⟩
    · exact fun hmem => hsubset _ hmem (by decide)
    · exact fun hmem => hsubset _ hmem (by decide)
    · -- the dots at the start were dropped after everything else
      intro hdot
      have hhead := List.head?_dropWhile_not (· == dot) written
      rw [hdot] at hhead
      exact nomatch hhead

end KernelJob
