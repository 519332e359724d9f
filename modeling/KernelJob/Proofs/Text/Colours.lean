import KernelJob.Text.Escapes

/-! # Coloured texts

A coloured text is plain text with sequences for colours in between. Taking control sequences out of
a text is a scan from left to right that needs no more steps than the text is long, and what it
takes out of a coloured text is just the sequences: each ends with its letter, although the plain
text after it may begin with digits, semicolons or letters too.

* **`Text.stripControls_cons_of_ne`**, **`Text.stripControls_escape`** — the steps of the scan.
* **`Text.ColourPiece`** — a plain piece of a text or a sequence for a colour.
* **`Text.stripColours_written`** — a coloured text without its colours is its plain text. -/

namespace KernelJob.Text

/-- The escape character. -/
def escape : CodePoint := CodePoint.ofNat 27

/-! ## The scan -/

variable {form : ControlForm} {t : Text}

/-- **The parts of a control sequence**: a bracket, parameters, intermediates and a final
character. -/
theorem ControlForm.after?_parts {rest : Text} (h : form.after? t = some rest) :
    ∃ bracket parameters intermediates final,
      t = bracket :: (parameters ++ (intermediates ++ final :: rest)) ∧ bracket.val = 91 ∧
      (∀ c ∈ parameters, form.isParameter c = true) ∧
      (∀ c ∈ intermediates, form.isIntermediate c = true) ∧ form.isFinal final = true := by
  cases t with
  | nil => cases h
  | cons b tail =>
    rw [ControlForm.after?] at h
    by_cases hbracket : b.val = 91
    · rw [if_pos hbracket] at h
      cases hlast : (tail.dropWhile form.isParameter).dropWhile form.isIntermediate with
      | nil =>
        rw [hlast] at h
        cases h
      | cons final last =>
        rw [hlast] at h
        dsimp only at h
        by_cases hfinal : form.isFinal final = true
        · rw [if_pos hfinal] at h
          obtain rfl := Option.some.inj h
          refine ⟨b, tail.takeWhile form.isParameter,
            (tail.dropWhile form.isParameter).takeWhile form.isIntermediate, final, ?_, hbracket,
            List.all_eq_true.mp List.all_takeWhile, List.all_eq_true.mp List.all_takeWhile, hfinal⟩
          rw [← hlast, List.takeWhile_append_dropWhile, List.takeWhile_append_dropWhile]
        · rw [if_neg hfinal] at h
          cases h
    · rw [if_neg hbracket] at h
      cases h

/-- What follows a control sequence is what its final character leaves of the text. -/
theorem ControlForm.after?_suffix {rest : Text} (h : form.after? t = some rest) :
    ∃ final, final :: rest <:+ t := by
  obtain ⟨bracket, parameters, intermediates, final, rfl, -⟩ := ControlForm.after?_parts h
  refine ⟨final, bracket :: (parameters ++ intermediates), ?_⟩
  rw [List.cons_append, List.append_assoc]

/-- So it is shorter than the text. -/
theorem ControlForm.after?_length {rest : Text} (h : form.after? t = some rest) :
    rest.length < t.length := by
  obtain ⟨final, hsuffix⟩ := ControlForm.after?_suffix h
  have hlength := hsuffix.length_le
  rw [List.length_cons] at hlength
  omega

@[simp] theorem stripControlsFuel_nil (form : ControlForm) (fuel : Nat) :
    stripControlsFuel form fuel [] = [] := by
  cases fuel <;> rfl

/-- Cons reading of the scan: an escape character goes with the sequence that it begins, and any
other character stays. -/
theorem stripControlsFuel_cons (form : ControlForm) (fuel : Nat) (c : CodePoint) (cs : Text) :
    stripControlsFuel form (fuel + 1) (c :: cs) =
      if c.val = 27 then
        match form.after? cs with
        | some rest => stripControlsFuel form fuel rest
        | none => c :: stripControlsFuel form fuel cs
      else c :: stripControlsFuel form fuel cs := rfl

/-- **The scan ends with the text**: more steps than it is long change nothing. -/
theorem stripControlsFuel_eq {fuel : Nat} (h : t.length ≤ fuel) :
    stripControlsFuel form fuel t = stripControls form t := by
  have hsame : ∀ n m (u : Text), u.length ≤ n → u.length ≤ m →
      stripControlsFuel form n u = stripControlsFuel form m u := by
    intro n
    induction n with
    | zero =>
      intro m u hn _
      obtain rfl := List.length_eq_zero_iff.mp (Nat.le_zero.mp hn)
      simp
    | succ n ih =>
      intro m u hn hm
      cases u with
      | nil => simp
      | cons c cs =>
        rw [List.length_cons] at hn hm
        -- the text is not empty, so neither scan is out of steps
        obtain ⟨m, rfl⟩ := Nat.exists_eq_succ_of_ne_zero (show m ≠ 0 by omega)
        have hcs := ih m cs (by omega) (by omega)
        rw [stripControlsFuel_cons, stripControlsFuel_cons, hcs]
        split
        · cases hafter : form.after? cs with
          | none => rfl
          | some rest =>
            have hshorter := ControlForm.after?_length hafter
            exact ih m rest (by omega) (by omega)
        · rfl
  exact hsame fuel t.length t h (Nat.le_refl _)

/-- A character that is no escape character stays. -/
theorem stripControls_cons_of_ne {c : CodePoint} (h : c ≠ escape) (cs : Text) :
    stripControls form (c :: cs) = c :: stripControls form cs := by
  have hval : c.val ≠ 27 := fun hval => h (CodePoint.ext hval)
  rw [stripControls, List.length_cons, stripControlsFuel_cons, if_neg hval,
    stripControlsFuel_eq (Nat.le_refl _)]

/-- An escape character goes with the sequence that it begins. -/
theorem stripControls_escape {cs rest : Text} (h : form.after? cs = some rest) :
    stripControls form (escape :: cs) = stripControls form rest := by
  rw [stripControls, List.length_cons, stripControlsFuel_cons, if_pos (by rfl), h]
  exact stripControlsFuel_eq (Nat.le_of_lt (ControlForm.after?_length h))

/-- A text without the escape character stays, whatever follows it. -/
theorem stripControls_append_of_notMem {u : Text} (h : escape ∉ u) (t : Text) :
    stripControls form (u ++ t) = u ++ stripControls form t := by
  induction u with
  | nil => rfl
  | cons c u ih =>
    rw [List.mem_cons, not_or] at h
    rw [List.cons_append, List.cons_append, stripControls_cons_of_ne (Ne.symm h.1), ih h.2]

/-! ## Colours -/

/-- A letter is no parameter of a sequence for a colour. -/
theorem not_isParameter_of_isLetter {c : CodePoint} (h : c.isLetter = true) :
    ControlForm.colour.isParameter c = false := by
  simp only [CodePoint.isLetter, Bool.or_eq_true, Bool.and_eq_true, decide_eq_true_eq] at h
  simp only [ControlForm.colour, CodePoint.isDigit, Bool.or_eq_false_iff, Bool.and_eq_false_iff,
    decide_eq_false_iff_not, beq_eq_false_iff_ne]
  omega

/-- **A sequence for a colour ends with its letter.** Parameters are taken as long as there are any,
and the letter is none, so it does not matter what follows. -/
theorem after?_colour {parameters : Text} {final : CodePoint}
    (hparameters : ∀ c ∈ parameters, ControlForm.colour.isParameter c = true)
    (hfinal : final.isLetter = true) (rest : Text) :
    ControlForm.colour.after? (CodePoint.ofChar '[' :: (parameters ++ final :: rest)) =
      some rest := by
  have htaken : (parameters ++ final :: rest).dropWhile ControlForm.colour.isParameter =
      final :: rest := by
    rw [List.dropWhile_append_of_pos hparameters,
      List.dropWhile_cons_of_neg (by rw [not_isParameter_of_isLetter hfinal]; decide)]
  rw [ControlForm.after?, if_pos (by rfl), htaken,
    List.dropWhile_cons_of_neg (by exact Bool.false_ne_true)]
  exact if_pos hfinal

/-- **A piece of a coloured text.** -/
inductive ColourPiece
  /-- Plain text, without the escape character. -/
  | plain (t : Text) (unescaped : escape ∉ t)
  /-- A sequence for a colour: after the escape character and a bracket come any digits and
  semicolons, and a letter. -/
  | sequence (parameters : Text) (final : CodePoint)
    (digits : ∀ c ∈ parameters, c.isDigit = true ∨ c = CodePoint.ofChar ';')
    (letter : final.isLetter = true)

namespace ColourPiece

/-- A piece as it stands in a text. -/
def written : ColourPiece → Text
  | plain t _ => t
  | sequence parameters final _ _ => escape :: CodePoint.ofChar '[' :: (parameters ++ [final])

/-- What is left of a piece without colours. -/
def shown : ColourPiece → Text
  | plain t _ => t
  | sequence _ _ _ _ => []

/-- A piece is taken out if it is a sequence, and stays if it is plain. -/
theorem stripColours_written_append (p : ColourPiece) (t : Text) :
    stripColours (p.written ++ t) = p.shown ++ stripColours t := by
  cases p with
  | plain u hu => exact stripControls_append_of_notMem hu t
  | sequence parameters final hdigits hletter =>
    have hparameters : ∀ c ∈ parameters, ControlForm.colour.isParameter c = true := by
      intro c hc
      rcases hdigits c hc with hdigit | rfl
      · simp [ControlForm.colour, hdigit]
      · rfl
    have hwritten : (sequence parameters final hdigits hletter).written ++ t =
        escape :: CodePoint.ofChar '[' :: (parameters ++ final :: t) := by
      simp [written]
    rw [hwritten]
    exact stripControls_escape (after?_colour hparameters hletter t)

end ColourPiece

/-- A coloured text: its pieces from left to right. -/
abbrev Colouring := List ColourPiece

namespace Colouring

/-- The text with its colours. -/
def written (l : Colouring) : Text := l.flatMap ColourPiece.written

/-- The plain text. -/
def shown (l : Colouring) : Text := l.flatMap ColourPiece.shown

end Colouring

/-- **A coloured text without its colours is its plain text.** -/
theorem stripColours_written (l : Colouring) : stripColours l.written = l.shown := by
  induction l with
  | nil => rfl
  | cons p l ih =>
    show stripColours (p.written ++ Colouring.written l) = p.shown ++ Colouring.shown l
    rw [p.stripColours_written_append, ih]

end KernelJob.Text
