import KernelJob.Base64

/-! # Decoding base 64

What has been encoded is decoded as the bytes that it was, also when it reaches the decoder with
line breaks, blanks or other ASCII signs strewn in, be it within a group or between two padding
signs. The decoder forgets such a sign without a change of its progress, and from the letters of a
whole group it puts together the three bytes that they were made from.

* **`Base64.IsForeign`** — a code point that is no letter of base 64 and no padding.
* **`Base64.Sprinkled`** — a text with foreign ASCII signs strewn in.
* **`Base64.decodeFrom_encode`** — decoding undoes encoding.
* **`Base64.decode_of_sprinkled`** — so it does with foreign signs strewn in. -/

namespace KernelJob.Base64

/-! ## Letters -/

/-- The number of a letter as a code point. -/
theorem val_letter (v : Nat) :
    (letter v).val = if v < 26 then 65 + v else if v < 52 then 71 + v else if v < 62 then v - 4
      else if v = 62 then 43 else 47 := by
  rw [letter, CodePoint.val_ofNat]
  grind

/-- **A letter has the value that it was chosen for.** -/
theorem value?_letter {v : Nat} (h : v < 64) : value? (letter v) = some v := by
  rw [value?, val_letter]
  grind

/-- What has a value is the letter for it. -/
theorem eq_letter_of_value? {c : CodePoint} {v : Nat} (h : value? c = some v) :
    v < 64 ∧ c = letter v := by
  have hv : v < 64 := by
    unfold value? at h
    grind
  refine ⟨hv, CodePoint.ext ?_⟩
  rw [val_letter]
  unfold value? at h
  grind

theorem isAscii_letter {v : Nat} (h : v < 64) : (letter v).isAscii = true := by
  rw [CodePoint.isAscii, val_letter, decide_eq_true_eq]
  grind

/-- The padding sign is no letter. -/
theorem letter_ne_pad {v : Nat} (h : v < 64) : letter v ≠ pad := by
  intro hpad
  have hvalue := value?_letter h
  rw [hpad] at hvalue
  exact nomatch hvalue

/-! ## The steps of encoding and decoding -/

/-- A single byte is encoded as two letters and two padding signs. -/
theorem encode_one (a : UInt8) :
    encode [a] = [letter (a.toNat / 4), letter (a.toNat % 4 * 16), pad, pad] := rfl

/-- Two bytes are encoded as three letters and a padding sign. -/
theorem encode_two (a b : UInt8) :
    encode [a, b] = [letter (a.toNat / 4), letter (a.toNat % 4 * 16 + b.toNat / 16),
      letter (b.toNat % 16 * 4), pad] := rfl

/-- Three bytes are encoded as a group of four letters, and the rest after them. -/
theorem encode_group (a b c : UInt8) (rest : List UInt8) :
    encode (a :: b :: c :: rest) =
      letter (a.toNat / 4) :: letter (a.toNat % 4 * 16 + b.toNat / 16) ::
        letter (b.toNat % 16 * 4 + c.toNat / 64) :: letter (c.toNat % 64) :: encode rest := rfl

/-- Cons reading of the decoder: padding may end the text, a code point without a value is passed
over, and a letter completes the byte that its place is for. -/
theorem decodeFrom_cons (p : Progress) (c : CodePoint) (t : Text) :
    decodeFrom p (c :: t) =
      if c = pad then
        if 2 ≤ p.place ∧ 4 ≤ p.place + (p.pads + 1) then .ok []
        else decodeFrom { p with pads := p.pads + 1 } t
      else
        match value? c with
        | none => decodeFrom p t
        | some v =>
          if p.place = 0 then decodeFrom ⟨1, v, 0, p.letters + 1⟩ t
          else if p.place = 1 then
            (decodeFrom ⟨2, v % 16, 0, p.letters + 1⟩ t).map
              (UInt8.ofNat (p.left * 4 + v / 16) :: ·)
          else if p.place = 2 then
            (decodeFrom ⟨3, v % 4, 0, p.letters + 1⟩ t).map
              (UInt8.ofNat (p.left * 16 + v / 4) :: ·)
          else
            (decodeFrom ⟨0, 0, 0, p.letters + 1⟩ t).map (UInt8.ofNat (p.left * 64 + v) :: ·) := rfl

/-! ## Foreign signs -/

/-- **A code point that is foreign to base 64**: no letter and no padding sign. -/
def IsForeign (c : CodePoint) : Prop := (∀ v < 64, c ≠ letter v) ∧ c ≠ pad

/-- **A text with foreign signs of ASCII strewn in**, at any places and as many as one likes. -/
inductive Sprinkled : Text → Text → Prop
  | nil : Sprinkled [] []
  | keep (c : CodePoint) {t u : Text} (h : Sprinkled t u) : Sprinkled (c :: t) (c :: u)
  | insert {c : CodePoint} (hascii : c.isAscii = true) (hforeign : IsForeign c) {t u : Text}
      (h : Sprinkled t u) : Sprinkled t (c :: u)

/-- A foreign sign has no value. -/
theorem IsForeign.value? {c : CodePoint} (h : IsForeign c) : value? c = none := by
  cases hvalue : Base64.value? c with
  | none => rfl
  | some v =>
    obtain ⟨hv, hletter⟩ := eq_letter_of_value? hvalue
    exact absurd hletter (h.1 v hv)

/-- A foreign sign is forgotten. -/
theorem IsForeign.decodeFrom {c : CodePoint} (h : IsForeign c) (p : Progress) (t : Text) :
    decodeFrom p (c :: t) = Base64.decodeFrom p t := by
  rw [decodeFrom_cons, if_neg h.2, h.value?]

namespace Sprinkled

variable {t u : Text}

/-- With foreign signs of ASCII a text of ASCII stays one. -/
theorem isAscii (h : Sprinkled t u) (ht : t.isAscii = true) : u.isAscii = true := by
  induction h with
  | nil => exact ht
  | keep c h ih =>
    rw [Text.isAscii, List.all_cons, Bool.and_eq_true] at ht ⊢
    exact ⟨ht.1, ih ht.2⟩
  | insert hascii hforeign h ih =>
    rw [Text.isAscii, List.all_cons, Bool.and_eq_true]
    exact ⟨hascii, ih ht⟩

/-- **Foreign signs make no difference**, whatever progress the decoder has made. -/
theorem decodeFrom (h : Sprinkled t u) (p : Progress) :
    decodeFrom p u = Base64.decodeFrom p t := by
  induction h generalizing p with
  | nil => rfl
  | keep c h ih => simp only [decodeFrom_cons, ih]
  | insert hascii hforeign h ih => rw [hforeign.decodeFrom, ih]

end Sprinkled

/-! ## Groups -/

section Letters

variable {v : Nat} (hv : v < 64) (left pads letters : Nat) (t : Text)
include hv

/-- The first letter of a group is kept for the next one. -/
theorem decodeFrom_first :
    decodeFrom ⟨0, left, pads, letters⟩ (letter v :: t) =
      decodeFrom ⟨1, v, 0, letters + 1⟩ t := by
  simp [decodeFrom_cons, letter_ne_pad hv, value?_letter hv]

/-- The second letter of a group completes its first byte. -/
theorem decodeFrom_second :
    decodeFrom ⟨1, left, pads, letters⟩ (letter v :: t) =
      (decodeFrom ⟨2, v % 16, 0, letters + 1⟩ t).map (UInt8.ofNat (left * 4 + v / 16) :: ·) := by
  simp [decodeFrom_cons, letter_ne_pad hv, value?_letter hv]

/-- The third letter of a group completes its second byte. -/
theorem decodeFrom_third :
    decodeFrom ⟨2, left, pads, letters⟩ (letter v :: t) =
      (decodeFrom ⟨3, v % 4, 0, letters + 1⟩ t).map (UInt8.ofNat (left * 16 + v / 4) :: ·) := by
  simp [decodeFrom_cons, letter_ne_pad hv, value?_letter hv]

/-- The fourth letter of a group completes its third byte, and the group. -/
theorem decodeFrom_fourth :
    decodeFrom ⟨3, left, pads, letters⟩ (letter v :: t) =
      (decodeFrom ⟨0, 0, 0, letters + 1⟩ t).map (UInt8.ofNat (left * 64 + v) :: ·) := by
  simp [decodeFrom_cons, letter_ne_pad hv, value?_letter hv]

end Letters

/-- **Decoding undoes encoding**, whatever has been decoded before. The induction is along the
groups of the encoding; the last one may have padding. -/
theorem decodeFrom_encode (bytes : List UInt8) (letters : Nat) :
    decodeFrom ⟨0, 0, 0, letters⟩ (encode bytes) = .ok bytes := by
  induction bytes using encode.induct generalizing letters with
  | case1 => rfl
  | case2 a =>
    have ha := a.toNat_lt
    rw [encode_one, decodeFrom_first (by omega), decodeFrom_second (by omega)]
    have hbyte : UInt8.ofNat (a.toNat / 4 * 4 + a.toNat % 4 * 16 / 16) = a :=
      (UInt8.ofNat_eq_iff_mod_eq_toNat _ a).mpr (by omega)
    rw [hbyte]
    rfl
  | case3 a b =>
    have ha := a.toNat_lt
    have hb := b.toNat_lt
    rw [encode_two, decodeFrom_first (by omega), decodeFrom_second (by omega),
      decodeFrom_third (by omega)]
    have hfirst : UInt8.ofNat (a.toNat / 4 * 4 + (a.toNat % 4 * 16 + b.toNat / 16) / 16) = a :=
      (UInt8.ofNat_eq_iff_mod_eq_toNat _ a).mpr (by omega)
    have hsecond : UInt8.ofNat ((a.toNat % 4 * 16 + b.toNat / 16) % 16 * 16 +
        b.toNat % 16 * 4 / 4) = b :=
      (UInt8.ofNat_eq_iff_mod_eq_toNat _ b).mpr (by omega)
    rw [hfirst, hsecond]
    rfl
  | case4 a b c rest ih =>
    have ha := a.toNat_lt
    have hb := b.toNat_lt
    have hc := c.toNat_lt
    rw [encode_group, decodeFrom_first (by omega), decodeFrom_second (by omega),
      decodeFrom_third (by omega), decodeFrom_fourth (by omega), ih]
    have hfirst : UInt8.ofNat (a.toNat / 4 * 4 + (a.toNat % 4 * 16 + b.toNat / 16) / 16) = a :=
      (UInt8.ofNat_eq_iff_mod_eq_toNat _ a).mpr (by omega)
    have hsecond : UInt8.ofNat ((a.toNat % 4 * 16 + b.toNat / 16) % 16 * 16 +
        (b.toNat % 16 * 4 + c.toNat / 64) / 4) = b :=
      (UInt8.ofNat_eq_iff_mod_eq_toNat _ b).mpr (by omega)
    have hthird : UInt8.ofNat ((b.toNat % 16 * 4 + c.toNat / 64) % 4 * 64 + c.toNat % 64) = c :=
      (UInt8.ofNat_eq_iff_mod_eq_toNat _ c).mpr (by omega)
    rw [hfirst, hsecond, hthird]
    rfl

/-! ## Texts -/

/-- What has been encoded is of ASCII. -/
theorem isAscii_encode (bytes : List UInt8) : (encode bytes).isAscii = true := by
  have hpad : pad.isAscii = true := rfl
  induction bytes using encode.induct with
  | case1 => rfl
  | case2 a =>
    have ha := a.toNat_lt
    simp only [encode_one, Text.isAscii, List.all_cons, List.all_nil, Bool.and_true, hpad]
    rw [isAscii_letter (by omega), isAscii_letter (by omega)]
    rfl
  | case3 a b =>
    have ha := a.toNat_lt
    have hb := b.toNat_lt
    simp only [encode_two, Text.isAscii, List.all_cons, List.all_nil, Bool.and_true, hpad]
    rw [isAscii_letter (by omega), isAscii_letter (by omega), isAscii_letter (by omega)]
    rfl
  | case4 a b c rest ih =>
    have ha := a.toNat_lt
    have hb := b.toNat_lt
    have hc := c.toNat_lt
    rw [Text.isAscii] at ih
    simp only [encode_group, Text.isAscii, List.all_cons, ih, Bool.and_true]
    rw [isAscii_letter (by omega), isAscii_letter (by omega), isAscii_letter (by omega),
      isAscii_letter (by omega)]
    rfl

/-- **What has been encoded is decoded as the bytes that it was**, whatever foreign signs of ASCII
are strewn in. -/
theorem decode_of_sprinkled {bytes : List UInt8} {t : Text} (h : Sprinkled (encode bytes) t) :
    decode t = .ok bytes := by
  rw [decode, if_pos (h.isAscii (isAscii_encode bytes)), h.decodeFrom]
  exact decodeFrom_encode bytes 0

example : encode [77, 97, 110, 33] = "TWFuIQ==" := by decide

example : decode "TW\nFuI Q=\n=" = .ok [77, 97, 110, 33] := rfl

end KernelJob.Base64
