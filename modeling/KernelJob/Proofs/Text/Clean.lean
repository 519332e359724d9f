import KernelJob.Decimal.Digits
import KernelJob.Proofs.Text.Colours
import KernelJob.Proofs.Text.Utf8
import KernelJob.Proofs.Text.Utf8.Valid
import KernelJob.Text.Blank
import KernelJob.Text.Lines

/-! # Clean texts

A text is clean if it holds no half of a surrogate pair, so that UTF-8 can carry it. The program
builds texts from literals, numbers, quoted texts and parts of other texts, and all of that is clean
if those other texts are.

* **`Text.Clean`** — the predicate, with one lemma for each way to build a text.
* **`Text.clean_quoted`** — a quoted text is clean, whatever was quoted. -/

namespace KernelJob

namespace Text

/-- **A clean text** holds no surrogate. -/
def Clean (t : Text) : Prop := ∀ c ∈ t, c.isSurrogate = false

instance (t : Text) : Decidable t.Clean := inferInstanceAs (Decidable (∀ c ∈ t, _))

variable {t u : Text} {c : CodePoint}

/-- Clean texts are those without surrogates. -/
theorem clean_iff : t.Clean ↔ t.hasSurrogate = false := by
  rw [hasSurrogate, List.any_eq_false]
  simp only [Bool.not_eq_true]
  exact Iff.rfl

/-- What consists of the code points of a clean text is clean. -/
theorem Clean.of_subset (h : t.Clean) (hsub : u ⊆ t) : u.Clean := fun c hc => h c (hsub hc)

/-! ## Putting texts together -/

@[simp] theorem clean_nil : Clean [] := nofun

@[simp] theorem clean_cons : Clean (c :: t) ↔ c.isSurrogate = false ∧ t.Clean :=
  List.forall_mem_cons

@[simp] theorem clean_append : Clean (t ++ u) ↔ t.Clean ∧ u.Clean := List.forall_mem_append

theorem clean_flatMap {f : CodePoint → Text} (h : ∀ c ∈ t, (f c).Clean) : Clean (t.flatMap f) := by
  intro d hd
  obtain ⟨c, hc, hdc⟩ := List.mem_flatMap.mp hd
  exact h c hc d hdc

theorem clean_join {sep : Text} {ts : List Text} (hsep : sep.Clean) (h : ∀ t ∈ ts, t.Clean) :
    (join sep ts).Clean := by
  induction ts with
  | nil => exact clean_nil
  | cons t ts ih =>
    have ht := h t List.mem_cons_self
    have hts := ih fun u hu => h u (List.mem_cons_of_mem t hu)
    cases ts with
    | nil => exact ht
    | cons u ts =>
      rw [join_cons_cons, clean_append, clean_append]
      exact ⟨⟨ht, hsep⟩, hts⟩

/-- The parts of a clean text are clean. -/
theorem Clean.of_join {sep : Text} {ts : List Text} (h : (join sep ts).Clean) :
    ∀ t ∈ ts, t.Clean := by
  induction ts with
  | nil => exact List.forall_mem_nil _
  | cons t ts ih =>
    cases ts with
    | nil => exact List.forall_mem_singleton.mpr h
    | cons u ts =>
      rw [join_cons_cons, clean_append, clean_append] at h
      exact List.forall_mem_cons.mpr ⟨h.1.1, ih h.2⟩

theorem clean_replicate (n : Nat) (h : c.isSurrogate = false) : Clean (List.replicate n c) := by
  intro d hd
  rw [List.eq_of_mem_replicate hd]
  exact h

/-- Characters are clean. -/
theorem clean_map_ofChar (cs : List Char) : Clean (cs.map CodePoint.ofChar) := by
  intro c hc
  obtain ⟨ch, -, rfl⟩ := List.mem_map.mp hc
  exact isSurrogate_ofChar ch

/-- Every literal is clean. -/
@[simp] theorem clean_ofString (s : String) : (ofString s).Clean := clean_map_ofChar s.toList

/-! ## Parts of texts -/

theorem Clean.take (h : t.Clean) (n : Nat) : Clean (t.take n) := h.of_subset (List.take_subset n t)

theorem Clean.drop (h : t.Clean) (n : Nat) : Clean (t.drop n) := h.of_subset (List.drop_subset n t)

theorem Clean.reverse (h : t.Clean) : Clean t.reverse := fun c hc => h c (List.mem_reverse.mp hc)

/-- A clean text without the blanks around it is clean. -/
theorem Clean.trim (h : t.Clean) : t.trim.Clean := by
  have hdrop {u : Text} (hu : u.Clean) : Clean (u.dropWhile CodePoint.isBlank) :=
    hu.of_subset (List.dropWhile_subset _)
  exact (hdrop (hdrop h).reverse).reverse

/-- The pieces of a clean text are clean. -/
theorem Clean.splitOn (h : t.Clean) {sep : CodePoint} : ∀ piece ∈ Text.splitOn sep t,
    piece.Clean := by
  induction t with
  | nil => exact List.forall_mem_singleton.mpr clean_nil
  | cons c cs ih =>
    obtain ⟨hc, hcs⟩ := clean_cons.mp h
    have hpieces := ih hcs
    rw [Text.splitOn]
    split
    · exact List.forall_mem_cons.mpr ⟨clean_nil, hpieces⟩
    · split
      · exact List.forall_mem_singleton.mpr (clean_cons.mpr ⟨hc, clean_nil⟩)
      · rename_i piece rest heq
        rw [heq] at hpieces
        obtain ⟨hpiece, hrest⟩ := List.forall_mem_cons.mp hpieces
        exact List.forall_mem_cons.mpr ⟨clean_cons.mpr ⟨hc, hpiece⟩, hrest⟩

/-- The lines of a clean text are clean, the one that has begun included. -/
theorem clean_of_mem_linesFrom {line : Text} (hline : line.Clean) (h : t.Clean) :
    ∀ l ∈ linesFrom line t, l.Clean := by
  fun_induction linesFrom line t with
  | case1 => exact nofun
  | case2 line => exact List.forall_mem_singleton.mpr hline.reverse
  | case3 line c hend hreturn d ds hd ih =>
    have hrest := ih clean_nil (clean_cons.mp (clean_cons.mp h).2).2
    exact List.forall_mem_cons.mpr ⟨hline.reverse, hrest⟩
  | case4 line c hend hreturn d ds hd ih =>
    exact List.forall_mem_cons.mpr ⟨hline.reverse, ih clean_nil (clean_cons.mp h).2⟩
  | case5 line c => exact List.forall_mem_singleton.mpr hline.reverse
  | case6 line c cs hend hreturn ih =>
    exact List.forall_mem_cons.mpr ⟨hline.reverse, ih clean_nil (clean_cons.mp h).2⟩
  | case7 line c cs hend ih =>
    obtain ⟨hc, hcs⟩ := clean_cons.mp h
    exact ih (clean_cons.mpr ⟨hc, hline⟩) hcs

theorem Clean.lines (h : t.Clean) : ∀ l ∈ Text.lines t, l.Clean :=
  clean_of_mem_linesFrom clean_nil h

/-- What follows a control sequence is a part of what it stands in. -/
theorem ControlForm.after?_subset {form : ControlForm} {rest : Text}
    (h : form.after? t = some rest) : rest ⊆ t := by
  obtain ⟨final, hsuffix⟩ := ControlForm.after?_suffix h
  exact fun c hc => hsuffix.subset (List.mem_cons_of_mem final hc)

/-- Taking control sequences out of a text adds nothing to it. -/
theorem stripControlsFuel_subset (form : ControlForm) (fuel : Nat) (t : Text) :
    stripControlsFuel form fuel t ⊆ t := by
  induction fuel generalizing t with
  | zero => exact fun _ h => h
  | succ fuel ih =>
    cases t with
    | nil => exact fun _ h => h
    | cons c cs =>
      have hcons : c :: stripControlsFuel form fuel cs ⊆ c :: cs := List.cons_subset_cons c (ih cs)
      rw [stripControlsFuel_cons]
      split
      · split
        · rename_i rest hrest
          exact fun d hd => List.mem_cons_of_mem c (ControlForm.after?_subset hrest (ih rest hd))
        · exact hcons
      · exact hcons

theorem Clean.stripColours (h : t.Clean) : (Text.stripColours t).Clean :=
  h.of_subset (stripControlsFuel_subset _ _ t)

theorem Clean.stripCommands (h : t.Clean) : (Text.stripCommands t).Clean :=
  h.of_subset (stripControlsFuel_subset _ _ t)

/-- A surrogate stands in no command of a terminal, so it is found in what follows. -/
theorem ControlForm.mem_of_after?_terminal {rest : Text} (hc : c.isSurrogate = true)
    (h : ControlForm.terminal.after? t = some rest) (ht : c ∈ t) : c ∈ rest := by
  obtain ⟨bracket, parameters, intermediates, final, rfl, hbracket, hparameters, hintermediates,
    hfinal⟩ := ControlForm.after?_parts h
  simp only [CodePoint.isSurrogate, Bool.and_eq_true, decide_eq_true_eq] at hc
  simp only [ControlForm.terminal, Bool.and_eq_true, decide_eq_true_eq] at hparameters
  simp only [ControlForm.terminal, Bool.and_eq_true, decide_eq_true_eq] at hintermediates hfinal
  have hparameter : c ∉ parameters := fun hmem => by
    have hrange := hparameters c hmem
    omega
  have hintermediate : c ∉ intermediates := fun hmem => by
    have hrange := hintermediates c hmem
    omega
  have hends : c ≠ bracket ∧ c ≠ final := by
    constructor
    · rintro rfl
      omega
    · rintro rfl
      omega
  simpa [hparameter, hintermediate, hends.1, hends.2] using ht

/-- A surrogate stays when the commands of a terminal are taken out. -/
theorem mem_stripCommandsFuel (hc : c.isSurrogate = true) (fuel : Nat) (h : c ∈ t) :
    c ∈ stripControlsFuel .terminal fuel t := by
  induction fuel generalizing t with
  | zero => exact h
  | succ fuel ih =>
    cases t with
    | nil => exact h
    | cons d ds =>
      have hcons : c ∈ d :: stripControlsFuel .terminal fuel ds := by
        rcases List.mem_cons.mp h with rfl | hds
        · exact List.mem_cons_self
        · exact List.mem_cons_of_mem d (ih hds)
      rw [stripControlsFuel_cons]
      split
      · rename_i hescape
        have hne : c ≠ d := by
          rintro rfl
          rw [CodePoint.isSurrogate, hescape] at hc
          cases hc
        split
        · rename_i rest hrest
          have hds := (List.mem_cons.mp h).resolve_left hne
          exact ih (ControlForm.mem_of_after?_terminal hc hrest hds)
        · exact hcons
      · exact hcons

/-- **A text is clean if and only if it is without its terminal commands.** -/
@[simp] theorem clean_stripCommands : (stripCommands t).Clean ↔ t.Clean := by
  refine ⟨fun h c hc => Bool.eq_false_iff.mpr fun hsurrogate => ?_, Clean.stripCommands⟩
  have hkept := h c (mem_stripCommandsFuel hsurrogate t.length hc)
  rw [hsurrogate] at hkept
  cases hkept

/-- Blanks around a text are clean. -/
@[simp] theorem clean_padRight (width : Nat) : (padRight width t).Clean ↔ t.Clean := by
  simp [padRight, clean_replicate _ (isSurrogate_ofChar ' ')]

@[simp] theorem clean_padLeft (width : Nat) : (padLeft width t).Clean ↔ t.Clean := by
  simp [padLeft, clean_replicate _ (isSurrogate_ofChar ' ')]

/-! ## Quoted texts -/

/-- No surrogate shows as itself. -/
theorem isSurrogate_of_isPrintable (h : c.isPrintable = true) : c.isSurrogate = false := by
  have htable : ∀ r ∈ printableRanges, r.2 < 0xD800 ∨ 0xE000 ≤ r.1 := by decide +kernel
  simp only [CodePoint.isSurrogate, Bool.and_eq_false_iff, decide_eq_false_iff_not]
  unfold CodePoint.isPrintable at h
  split at h
  · omega
  · obtain ⟨r, hr, hin⟩ := List.any_eq_true.mp h
    simp only [Bool.and_eq_true, decide_eq_true_eq] at hin
    have hout := htable r hr
    omega

/-- The code point of a small number is no surrogate. -/
theorem isSurrogate_ofNat {n : Nat} (h : n < 0xD800) : (CodePoint.ofNat n).isSurrogate = false := by
  have hn : n < 0x110000 := Nat.lt_trans h (by decide)
  simp only [CodePoint.isSurrogate, CodePoint.val_ofNat hn, Bool.and_eq_false_iff,
    decide_eq_false_iff_not]
  omega

theorem clean_hex (width n : Nat) : (hex width n).Clean := by
  induction width generalizing n with
  | zero => exact clean_nil
  | succ width ih =>
    rw [hex, clean_append]
    refine ⟨ih _, clean_cons.mpr ⟨isSurrogate_ofNat ?_, clean_nil⟩⟩
    split <;> omega

@[simp] theorem clean_escapedPoint (c : CodePoint) : (escapedPoint c).Clean := by
  unfold escapedPoint
  split
  · exact clean_append.mpr ⟨clean_ofString _, clean_hex 2 _⟩
  split
  · exact clean_append.mpr ⟨clean_ofString _, clean_hex 4 _⟩
  · exact clean_append.mpr ⟨clean_ofString _, clean_hex 8 _⟩

theorem clean_quotedPoint {q : CodePoint} (hq : q.isSurrogate = false) (c : CodePoint) :
    (quotedPoint q c).Clean := by
  unfold quotedPoint
  split
  · rename_i hc
    have hpoint : c.isSurrogate = false := by
      rcases hc with rfl | hc
      · exact hq
      · simp [CodePoint.isSurrogate, hc]
    simp [hpoint, isSurrogate_ofNat]
  split
  · exact clean_ofString _
  split
  · exact clean_ofString _
  split
  · exact clean_ofString _
  split
  · rename_i hprintable
    exact clean_cons.mpr ⟨isSurrogate_of_isPrintable hprintable, clean_nil⟩
  · exact clean_escapedPoint c

/-- **A quoted text is clean**, whatever was quoted. -/
@[simp] theorem clean_quoted (t : Text) : t.quoted.Clean := by
  have hquote : (quoteFor t).isSurrogate = false := by
    unfold quoteFor
    split <;> rfl
  rw [quoted, List.cons_append, clean_cons, clean_append, clean_cons]
  exact ⟨hquote, clean_flatMap fun c _ => clean_quotedPoint hquote c, hquote, clean_nil⟩

/-! ## Numbers -/

@[simp] theorem clean_ofNat (n : Nat) : (ofNat n).Clean := clean_map_ofChar _

@[simp] theorem clean_ofInt (n : Int) : (ofInt n).Clean := by
  cases n with
  | ofNat n => exact clean_ofNat n
  | negSucc n => exact clean_cons.mpr ⟨isSurrogate_ofChar _, clean_ofNat _⟩

theorem clean_writeExponent (e : Int) : (Digits.writeExponent e).Clean := by
  rw [Digits.writeExponent, clean_append]
  refine ⟨?_, ?_⟩
  · split <;> exact clean_ofString _
  · split
    · exact clean_append.mpr ⟨clean_ofString _, clean_ofNat _⟩
    · exact clean_ofNat _

theorem clean_write (layout : Digits.Layout) (d : Digits) : (d.write layout).Clean := by
  have hdigits : (ofNat d.value).Clean := clean_ofNat _
  have hzeros (n : Nat) : Clean (List.replicate n (CodePoint.ofChar '0')) :=
    clean_replicate n (isSurrogate_ofChar '0')
  unfold Digits.write
  dsimp only
  split
  · split
    · simp only [clean_append, hdigits, hzeros, true_and]
      split
      · exact clean_ofString _
      · exact clean_nil
    split
    · simp [hdigits.take, hdigits.drop]
    · simp [hdigits, hzeros]
  · simp only [clean_append, hdigits.take, clean_writeExponent, true_and, and_true]
    split
    · exact clean_nil
    · exact clean_append.mpr ⟨clean_ofString _, hdigits.drop 1⟩

theorem clean_ofBinary (layout : Digits.Layout) (digits : Nat → Int → Digits) (b : Binary) :
    (ofBinary layout digits b).Clean := by
  cases b with
  | nan => exact clean_ofString _
  | infinite negative => cases negative <;> exact clean_ofString _
  | finite negative m e =>
    rw [ofBinary, clean_append]
    refine ⟨?_, ?_⟩
    · split
      · exact clean_ofString _
      · exact clean_nil
    · split
      · split <;> exact clean_ofString _
      · exact clean_write layout _

@[simp] theorem clean_ofFloat (x : Float) : (ofFloat x).Clean := clean_ofBinary _ _ _

@[simp] theorem clean_ofFloatSix (x : Float) : (ofFloatSix x).Clean := clean_ofBinary _ _ _

end Text

/-! ## Faults of numbers and encodings -/

@[simp] theorem WholeFault.clean_message (f : WholeFault) : f.message.Clean := by
  cases f <;> exact Text.clean_ofString _

@[simp] theorem EncodeFault.clean_message (f : EncodeFault) : f.message.Clean := by
  obtain ⟨encoding, point, first, stop⟩ := f
  have hname : encoding.name.Clean := by cases encoding <;> exact Text.clean_ofString _
  have hrefusal : encoding.refusal.Clean := by cases encoding <;> exact Text.clean_ofString _
  unfold message
  split <;> simp [hname, hrefusal]

@[simp] theorem DecodeFault.clean_message (f : DecodeFault) : f.message.Clean := by
  have hcause : f.cause.message.Clean := by cases f.cause <;> exact Text.clean_ofString _
  unfold message
  split <;> simp [hcause, Text.clean_hex]

end KernelJob
