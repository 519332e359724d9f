import KernelJob.Text.Utf8

/-! # Encoding and decoding of UTF-8

A text without surrogates has bytes, and decoding the bytes of a text gives the text back: the first
byte of a code point tells how many bytes follow it, and the bits that the bytes carry are those of
the code point.

* **`Text.exists_utf8From_eq`**, **`Text.exists_utf8_eq_error_iff`** — a text has bytes if it is
  without surrogates, and only then.
* **`Text.ofUtf8_of_utf8`** — the bytes of a text are decoded as the text. -/

namespace KernelJob.Text

/-- **A text without surrogates has bytes**, wherever it stands. -/
theorem exists_utf8From_eq {t : Text} (h : t.hasSurrogate = false) (pos : Nat) :
    ∃ bytes, utf8From pos t = .ok bytes := by
  induction t generalizing pos with
  | nil => exact ⟨[], rfl⟩
  | cons c cs ih =>
    rw [hasSurrogate, List.any_cons, Bool.or_eq_false_iff] at h
    obtain ⟨bytes, hbytes⟩ := ih h.2 (pos + 1)
    rw [utf8From, h.1, hbytes]
    exact ⟨_, rfl⟩

/-- A text with a surrogate has no bytes, wherever it stands. -/
theorem exists_utf8From_eq_error {t : Text} (h : t.hasSurrogate = true) (pos : Nat) :
    ∃ fault, utf8From pos t = .error fault := by
  induction t generalizing pos with
  | nil => exact nomatch h
  | cons c cs ih =>
    rw [utf8From]
    by_cases hc : c.isSurrogate = true
    · rw [if_pos hc]
      exact ⟨_, rfl⟩
    · rw [if_neg hc]
      rw [hasSurrogate, List.any_cons, Bool.or_eq_true] at h
      obtain ⟨fault, hfault⟩ := ih (h.resolve_left hc) (pos + 1)
      rw [hfault]
      exact ⟨fault, rfl⟩

/-- **A text has no bytes if and only if it holds a surrogate.** -/
theorem exists_utf8_eq_error_iff {t : Text} :
    (∃ fault, utf8 t = .error fault) ↔ t.hasSurrogate = true := by
  refine ⟨fun h => ?_, fun h => exists_utf8From_eq_error h 0⟩
  obtain ⟨fault, hfault⟩ := h
  cases hsurrogate : t.hasSurrogate with
  | true => rfl
  | false =>
    obtain ⟨bytes, hbytes⟩ := exists_utf8From_eq hsurrogate 0
    rw [utf8, hbytes] at hfault
    exact nomatch hfault

/-- A text without surrogates has no fault. -/
theorem utf8Fault?_eq_none {t : Text} (h : t.hasSurrogate = false) : utf8Fault? t = none := by
  obtain ⟨bytes, hbytes⟩ := exists_utf8From_eq h 0
  rw [utf8Fault?, utf8, hbytes]

/-- A text has no fault only if it is without surrogates. -/
theorem utf8Fault?_eq_none_iff {t : Text} : utf8Fault? t = none ↔ t.hasSurrogate = false := by
  refine ⟨fun h => Bool.eq_false_iff.mpr fun hsurrogate => ?_, utf8Fault?_eq_none⟩
  obtain ⟨fault, hfault⟩ := exists_utf8_eq_error_iff.mpr hsurrogate
  rw [utf8Fault?, hfault] at h
  cases h

/-! ## Code points -/

section Bytes

variable {n : Nat} (hn : n < 256) (k : UInt8)
include hn

/-- A byte from its number. -/
theorem toNat_byte : (UInt8.ofNat n).toNat = n := by
  rw [UInt8.toNat_ofNat', Nat.mod_eq_of_lt hn]

theorem byte_lt_iff : UInt8.ofNat n < k ↔ n < k.toNat := by
  rw [UInt8.lt_iff_toNat_lt, toNat_byte hn]

theorem le_byte_iff : k ≤ UInt8.ofNat n ↔ k.toNat ≤ n := by
  rw [UInt8.le_iff_toNat_le, toNat_byte hn]

theorem byte_ne_iff : UInt8.ofNat n != k ↔ n ≠ k.toNat := by
  rw [bne_iff_ne, Ne, ← UInt8.toNat_inj, toNat_byte hn]

end Bytes

/-- The byte of six bits continues a code point. -/
theorem isContinuation_byte (n : Nat) : isContinuation (UInt8.ofNat (0x80 + n % 64)) = true := by
  have hn : 0x80 + n % 64 < 256 := by omega
  simp only [isContinuation, Bool.and_eq_true, decide_eq_true_eq, byte_lt_iff hn, le_byte_iff hn]
  exact ⟨Nat.le_add_right 0x80 _, show 0x80 + n % 64 < 0xC0 by omega⟩

/-- The byte of six bits carries them. -/
theorem low6_byte (n : Nat) : low6 (UInt8.ofNat (0x80 + n % 64)) = n % 64 := by
  rw [low6, toNat_byte (by omega)]
  omega

variable (pos : Nat) {c : CodePoint} (bs : List UInt8)

/-- One byte is decoded as the code point of ASCII. -/
theorem ofUtf8From_one (h : c.val < 0x80) :
    ofUtf8From pos (UInt8.ofNat c.val :: bs) = (ofUtf8From (pos + 1) bs).map (c :: ·) := by
  have hc : CodePoint.ofNat c.val = c := CodePoint.ext (CodePoint.val_ofNat c.isLt)
  rw [ofUtf8From.eq_def]
  dsimp only
  rw [if_pos ((byte_lt_iff (by omega) _).mpr h), toNat_byte (by omega), hc]

/-- Two bytes are decoded as the code point whose bits they carry. -/
theorem ofUtf8From_two (h₁ : 0x80 ≤ c.val) (h₂ : c.val < 0x800) :
    ofUtf8From pos (UInt8.ofNat (0xC0 + c.val / 64) :: UInt8.ofNat (0x80 + c.val % 64) :: bs) =
      (ofUtf8From (pos + 2) bs).map (c :: ·) := by
  have hfirst : 0xC0 + c.val / 64 < 256 := by omega
  have hc : CodePoint.ofNat ((0xC0 + c.val / 64) % 32 * 64 + c.val % 64) = c :=
    CodePoint.ext (by rw [CodePoint.val_ofNat (by omega)]; omega)
  rw [ofUtf8From.eq_def]
  simp only [byte_lt_iff hfirst, le_byte_iff hfirst, UInt8.reduceToNat, toNat_byte hfirst,
    isContinuation_byte, low6_byte, Bool.or_eq_true, decide_eq_true_eq, if_true, hc]
  rw [if_neg (by omega), if_neg (by omega), if_pos (by omega)]

/-- Three bytes are decoded as the code point whose bits they carry, if that is no surrogate. -/
theorem ofUtf8From_three (h₁ : 0x800 ≤ c.val) (h₂ : c.val < 0x10000) (hc : c.isSurrogate = false) :
    ofUtf8From pos (UInt8.ofNat (0xE0 + c.val / 4096) :: UInt8.ofNat (0x80 + c.val / 64 % 64) ::
        UInt8.ofNat (0x80 + c.val % 64) :: bs) =
      (ofUtf8From (pos + 3) bs).map (c :: ·) := by
  have hfirst : 0xE0 + c.val / 4096 < 256 := by omega
  have hsecond : 0x80 + c.val / 64 % 64 < 256 := by omega
  have hcontinues : continues3 (UInt8.ofNat (0xE0 + c.val / 4096))
      (UInt8.ofNat (0x80 + c.val / 64 % 64)) = true := by
    simp only [CodePoint.isSurrogate, Bool.and_eq_false_iff, decide_eq_false_iff_not] at hc
    rw [continues3, isContinuation_byte, Bool.true_and]
    split
    all_goals
      rw [byte_lt_iff hsecond] at *
      rw [byte_ne_iff hfirst]
      simp only [UInt8.reduceToNat] at *
      omega
  have hpoint : CodePoint.ofNat ((0xE0 + c.val / 4096) % 16 * 4096 + c.val / 64 % 64 * 64 +
      c.val % 64) = c := CodePoint.ext (by rw [CodePoint.val_ofNat (by omega)]; omega)
  rw [ofUtf8From.eq_def]
  simp only [byte_lt_iff hfirst, le_byte_iff hfirst, UInt8.reduceToNat, toNat_byte hfirst,
    isContinuation_byte, low6_byte, Bool.or_eq_true, decide_eq_true_eq, if_true, hcontinues,
    hpoint]
  rw [if_neg (by omega), if_neg (by omega), if_neg (by omega), if_pos (by omega)]

/-- Four bytes are decoded as the code point whose bits they carry. -/
theorem ofUtf8From_four (h : 0x10000 ≤ c.val) :
    ofUtf8From pos (UInt8.ofNat (0xF0 + c.val / 262144) ::
        UInt8.ofNat (0x80 + c.val / 4096 % 64) :: UInt8.ofNat (0x80 + c.val / 64 % 64) ::
        UInt8.ofNat (0x80 + c.val % 64) :: bs) =
      (ofUtf8From (pos + 4) bs).map (c :: ·) := by
  have hlt := c.isLt
  have hfirst : 0xF0 + c.val / 262144 < 256 := by omega
  have hsecond : 0x80 + c.val / 4096 % 64 < 256 := by omega
  have hcontinues : continues4 (UInt8.ofNat (0xF0 + c.val / 262144))
      (UInt8.ofNat (0x80 + c.val / 4096 % 64)) = true := by
    rw [continues4, isContinuation_byte, Bool.true_and]
    split
    all_goals
      rw [byte_lt_iff hsecond] at *
      rw [byte_ne_iff hfirst]
      simp only [UInt8.reduceToNat] at *
      omega
  have hpoint : CodePoint.ofNat ((0xF0 + c.val / 262144) % 8 * 262144 +
      c.val / 4096 % 64 * 4096 + c.val / 64 % 64 * 64 + c.val % 64) = c :=
    CodePoint.ext (by rw [CodePoint.val_ofNat (by omega)]; omega)
  rw [ofUtf8From.eq_def]
  simp only [byte_lt_iff hfirst, le_byte_iff hfirst, UInt8.reduceToNat, toNat_byte hfirst,
    isContinuation_byte, low6_byte, Bool.or_eq_true, decide_eq_true_eq, if_true, hcontinues,
    hpoint]
  rw [if_neg (by omega), if_neg (by omega), if_neg (by omega), if_neg (by omega)]

/-- **The bytes of a code point are decoded as the code point.** -/
theorem ofUtf8From_utf8Point (hc : c.isSurrogate = false) :
    ∃ next, ofUtf8From pos (utf8Point c ++ bs) = (ofUtf8From next bs).map (c :: ·) := by
  rw [utf8Point]
  split
  · exact ⟨pos + 1, ofUtf8From_one pos bs ‹_›⟩
  split
  · exact ⟨pos + 2, ofUtf8From_two pos bs (by omega) ‹_›⟩
  split
  · exact ⟨pos + 3, ofUtf8From_three pos bs (by omega) ‹_› hc⟩
  · exact ⟨pos + 4, ofUtf8From_four pos bs (by omega)⟩

/-! ## Texts -/

/-- The bytes of a text are decoded as the text, wherever either stands. -/
theorem ofUtf8From_of_utf8From {t : Text} {bytes : List UInt8} {start : Nat}
    (h : utf8From start t = .ok bytes) (pos : Nat) : ofUtf8From pos bytes = .ok t := by
  induction t generalizing start bytes pos with
  | nil =>
    obtain rfl : [] = bytes := Except.ok.inj h
    rfl
  | cons c cs ih =>
    rw [utf8From] at h
    split at h
    · exact nomatch h
    cases hrest : utf8From (start + 1) cs with
    | error fault =>
      rw [hrest] at h
      exact nomatch h
    | ok rest =>
      rw [hrest] at h
      obtain rfl : utf8Point c ++ rest = bytes := Except.ok.inj h
      have hc : c.isSurrogate = false := by simpa using ‹¬ c.isSurrogate = true›
      obtain ⟨next, hnext⟩ := ofUtf8From_utf8Point pos rest hc
      rw [hnext, ih hrest next]
      rfl

/-- **The bytes of a text are decoded as the text.** -/
theorem ofUtf8_of_utf8 {t : Text} {bytes : List UInt8} (h : utf8 t = .ok bytes) :
    ofUtf8 bytes = .ok t :=
  ofUtf8From_of_utf8From h 0

end KernelJob.Text
