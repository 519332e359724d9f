import KernelJob.Proofs.Text.Utf8

/-! # Valid UTF-8

The decoder is strict: it takes the shortest form of a code point only, no surrogate and nothing
above the last code point. So what it has decoded is encoded as the same bytes again, and the bytes
that it takes are those of some characters one after the other, which is what it means for bytes to
be valid.

* **`Text.Encodes`** — the bytes of a code point that is no surrogate.
* **`Text.utf8_of_ofUtf8`** — what has been decoded is encoded as the bytes that it was.
* **`Text.exists_ofUtf8_eq_iff`** — the decoder takes valid bytes and no others. -/

namespace KernelJob.Text

/-! ## The bytes of a code point -/

/-- **The bytes of a code point** that is no surrogate. -/
structure Encodes (point : List UInt8) (c : CodePoint) : Prop where
  isSurrogate : c.isSurrogate = false
  bytes : utf8Point c = point

section Shapes

variable {a b c d : UInt8}

/-- The bytes that continue a code point. -/
theorem isContinuation_iff : isContinuation b = true ↔ 0x80 ≤ b.toNat ∧ b.toNat < 0xC0 := by
  simp [isContinuation, UInt8.le_iff_toNat_le, UInt8.lt_iff_toNat_lt]

/-- A bound on the second byte that depends on the first one. -/
theorem bounded_iff (a b mid low high : UInt8) :
    (if b < mid then a != low else a != high) = true ↔
      (a.toNat = low.toNat → mid.toNat ≤ b.toNat) ∧
        (a.toNat = high.toNat → b.toNat < mid.toNat) := by
  by_cases hb : b < mid
  · have hlt : b.toNat < mid.toNat := UInt8.lt_iff_toNat_lt.mp hb
    rw [if_pos hb, bne_iff_ne, Ne, ← UInt8.toNat_inj]
    omega
  · have hle : ¬ b.toNat < mid.toNat := fun h => hb (UInt8.lt_iff_toNat_lt.mpr h)
    rw [if_neg hb, bne_iff_ne, Ne, ← UInt8.toNat_inj]
    omega

/-- Those that follow the first of three: what comes of it is neither a form longer than needed nor
a surrogate. -/
theorem continues3_iff : continues3 a b = true ↔ isContinuation b = true ∧
    (a.toNat = 0xE0 → 0xA0 ≤ b.toNat) ∧ (a.toNat = 0xED → b.toNat < 0xA0) := by
  rw [continues3, Bool.and_eq_true, bounded_iff]
  exact Iff.rfl

/-- Those that follow the first of four: what comes of it is neither a form longer than needed nor
above the last code point. -/
theorem continues4_iff : continues4 a b = true ↔ isContinuation b = true ∧
    (a.toNat = 0xF0 → 0x90 ≤ b.toNat) ∧ (a.toNat = 0xF4 → b.toNat < 0x90) := by
  rw [continues4, Bool.and_eq_true, bounded_iff]
  exact Iff.rfl

/-- A code point from its number has the bytes that the number has. -/
theorem encodes_ofNat {n : Nat} (hn : n < 0x110000) (hlow : n < 0xD800 ∨ 0xE000 ≤ n)
    {point : List UInt8} (h : utf8Point (CodePoint.ofNat n) = point) :
    Encodes point (CodePoint.ofNat n) := by
  refine ⟨?_, h⟩
  rw [CodePoint.isSurrogate, CodePoint.val_ofNat hn]
  grind

/-- A byte below `0x80` is a code point of ASCII. -/
theorem encodes_one (ha : a < 0x80) : Encodes [a] (CodePoint.ofNat a.toNat) := by
  have hlow : a.toNat < 0x80 := UInt8.lt_iff_toNat_lt.mp ha
  refine encodes_ofNat (by omega) (by omega) ?_
  rw [utf8Point, CodePoint.val_ofNat (by omega), if_pos hlow, UInt8.ofNat_toNat]

/-- Two bytes in the shape of a code point are its bytes. -/
theorem encodes_two (ha : 0xC2 ≤ a.toNat) (ha' : a.toNat < 0xE0) (hb : isContinuation b = true) :
    Encodes [a, b] (CodePoint.ofNat (a.toNat % 32 * 64 + low6 b)) := by
  rw [isContinuation_iff] at hb
  rw [low6]
  refine encodes_ofNat (by omega) (by omega) ?_
  rw [utf8Point, CodePoint.val_ofNat (by omega), if_neg (by omega), if_pos (by omega)]
  congr 1
  · exact (UInt8.ofNat_eq_iff_mod_eq_toNat _ a).mpr (by omega)
  congr 1
  exact (UInt8.ofNat_eq_iff_mod_eq_toNat _ b).mpr (by omega)

/-- Three bytes in the shape of a code point are its bytes. -/
theorem encodes_three (ha : 0xE0 ≤ a.toNat) (ha' : a.toNat < 0xF0) (hb : continues3 a b = true)
    (hc : isContinuation c = true) :
    Encodes [a, b, c] (CodePoint.ofNat (a.toNat % 16 * 4096 + low6 b * 64 + low6 c)) := by
  obtain ⟨hb, hlong, hsurrogate⟩ := continues3_iff.mp hb
  rw [isContinuation_iff] at hb hc
  rw [low6, low6]
  refine encodes_ofNat (by omega) (by omega) ?_
  rw [utf8Point, CodePoint.val_ofNat (by omega), if_neg (by omega), if_neg (by omega),
    if_pos (by omega)]
  congr 1
  · exact (UInt8.ofNat_eq_iff_mod_eq_toNat _ a).mpr (by omega)
  congr 1
  · exact (UInt8.ofNat_eq_iff_mod_eq_toNat _ b).mpr (by omega)
  congr 1
  exact (UInt8.ofNat_eq_iff_mod_eq_toNat _ c).mpr (by omega)

/-- Four bytes in the shape of a code point are its bytes. -/
theorem encodes_four (ha : 0xF0 ≤ a.toNat) (ha' : a.toNat < 0xF5) (hb : continues4 a b = true)
    (hc : isContinuation c = true) (hd : isContinuation d = true) :
    Encodes [a, b, c, d] (CodePoint.ofNat
      (a.toNat % 8 * 262144 + low6 b * 4096 + low6 c * 64 + low6 d)) := by
  obtain ⟨hb, hlong, hlast⟩ := continues4_iff.mp hb
  rw [isContinuation_iff] at hb hc hd
  rw [low6, low6, low6]
  refine encodes_ofNat (by omega) (by omega) ?_
  rw [utf8Point, CodePoint.val_ofNat (by omega), if_neg (by omega), if_neg (by omega),
    if_neg (by omega)]
  congr 1
  · exact (UInt8.ofNat_eq_iff_mod_eq_toNat _ a).mpr (by omega)
  congr 1
  · exact (UInt8.ofNat_eq_iff_mod_eq_toNat _ b).mpr (by omega)
  congr 1
  · exact (UInt8.ofNat_eq_iff_mod_eq_toNat _ c).mpr (by omega)
  congr 1
  exact (UInt8.ofNat_eq_iff_mod_eq_toNat _ d).mpr (by omega)

end Shapes

/-! ## The bytes of a text -/

/-- What is decoded after a code point is the rest of the text. -/
theorem cons_of_map_eq_ok {r : Except DecodeFault Text} {c : CodePoint} {t : Text}
    (h : r.map (c :: ·) = .ok t) : ∃ rest, t = c :: rest ∧ r = .ok rest := by
  cases r with
  | error fault => exact nomatch h
  | ok rest => exact ⟨rest, (Except.ok.inj h).symm, rfl⟩

/-- **Decoding takes the bytes of a code point** from the front of some bytes, and goes on with the
others. -/
theorem encodes_of_ofUtf8From {pos : Nat} {a : UInt8} {bs : List UInt8} {t : Text}
    (h : ofUtf8From pos (a :: bs) = .ok t) :
    ∃ c rest point more next, t = c :: rest ∧ a :: bs = point ++ more ∧ Encodes point c ∧
      ofUtf8From next more = .ok rest := by
  -- each way of succeeding gives the bytes of one code point, by its shape
  have taken : ∀ {point more next c}, Encodes point c → a :: bs = point ++ more →
      (ofUtf8From next more).map (c :: ·) = .ok t →
      ∃ c rest point more next, t = c :: rest ∧ a :: bs = point ++ more ∧ Encodes point c ∧
        ofUtf8From next more = .ok rest := by
    intro point more next c hencodes hbytes hmap
    obtain ⟨rest, ht, hrest⟩ := cons_of_map_eq_ok hmap
    exact ⟨c, rest, point, more, next, ht, hbytes, hencodes, hrest⟩
  rw [ofUtf8From.eq_def] at h
  dsimp only at h
  split at h
  · exact taken (encodes_one ‹_›) rfl h
  split at h
  · cases h
  rename_i hstart
  simp only [Bool.or_eq_true, decide_eq_true_eq, not_or, UInt8.lt_iff_toNat_lt,
    UInt8.le_iff_toNat_le, UInt8.reduceToNat, Nat.not_lt, Nat.not_le] at hstart
  simp only [UInt8.lt_iff_toNat_lt, UInt8.reduceToNat] at h
  split at h
  · -- two bytes
    split at h
    · cases h
    split at h
    · exact taken (encodes_two hstart.1 ‹_› ‹_›) rfl h
    · cases h
  split at h
  · -- three bytes
    split at h
    · cases h
    split at h
    · split at h
      · cases h
      split at h
      · exact taken (encodes_three (by omega) ‹_› ‹_› ‹_›) rfl h
      · cases h
    · cases h
  · -- four bytes
    split at h
    · cases h
    split at h
    · split at h
      · cases h
      split at h
      · split at h
        · cases h
        split at h
        · exact taken (encodes_four (by omega) hstart.2 ‹_› ‹_› ‹_›) rfl h
        · cases h
      · cases h
    · cases h

/-- What has been decoded is encoded as the bytes that it was, wherever either stands. The induction
is on the text. -/
theorem utf8From_of_ofUtf8From {pos : Nat} {bytes : List UInt8} {t : Text}
    (h : ofUtf8From pos bytes = .ok t) (start : Nat) : utf8From start t = .ok bytes := by
  induction t generalizing pos bytes start with
  | nil =>
    cases bytes with
    | nil => rfl
    | cons a bs =>
      obtain ⟨c, rest, point, more, next, ht, -⟩ := encodes_of_ofUtf8From h
      exact nomatch ht
  | cons c rest ih =>
    cases bytes with
    | nil => exact nomatch h
    | cons a bs =>
      obtain ⟨c', rest', point, more, next, ht, hbytes, hencodes, hmore⟩ :=
        encodes_of_ofUtf8From h
      obtain ⟨rfl, rfl⟩ := List.cons.inj ht
      rw [utf8From, hencodes.isSurrogate, if_neg Bool.false_ne_true, ih hmore, hbytes,
        ← hencodes.bytes]
      rfl

/-- **What has been decoded is encoded as the bytes that it was.** -/
theorem utf8_of_ofUtf8 {bytes : List UInt8} {t : Text} (h : ofUtf8 bytes = .ok t) :
    utf8 t = .ok bytes :=
  utf8From_of_ofUtf8From h 0

/-- **Encoding and decoding are inverse to each other.** -/
theorem ofUtf8_eq_ok_iff {bytes : List UInt8} {t : Text} :
    ofUtf8 bytes = .ok t ↔ utf8 t = .ok bytes :=
  ⟨utf8_of_ofUtf8, ofUtf8_of_utf8⟩

/-! ## Characters -/

/-- A character is no surrogate. -/
theorem isSurrogate_ofChar (c : Char) : (CodePoint.ofChar c).isSurrogate = false := by
  have hvalid : c.toNat < 0xD800 ∨ 0xDFFF < c.toNat ∧ c.toNat < 0x110000 := c.valid
  rw [CodePoint.isSurrogate, CodePoint.val_ofChar]
  grind

/-- A code point that is no surrogate is a character. -/
theorem exists_ofChar_eq {c : CodePoint} (h : c.isSurrogate = false) :
    ∃ ch : Char, CodePoint.ofChar ch = c := by
  have hlt := c.isLt
  have hvalid : c.val.isValidChar := by
    simp only [CodePoint.isSurrogate, Bool.and_eq_false_iff, decide_eq_false_iff_not] at h
    unfold Nat.isValidChar
    omega
  exact ⟨Char.ofNatAux c.val hvalid, rfl⟩

/-- A text without surrogates is one of characters. -/
theorem exists_map_ofChar_eq {t : Text} (h : t.hasSurrogate = false) :
    ∃ cs : List Char, cs.map CodePoint.ofChar = t := by
  induction t with
  | nil => exact ⟨[], rfl⟩
  | cons c rest ih =>
    rw [hasSurrogate, List.any_cons, Bool.or_eq_false_iff] at h
    obtain ⟨ch, rfl⟩ := exists_ofChar_eq h.1
    obtain ⟨cs, rfl⟩ := ih h.2
    exact ⟨ch :: cs, rfl⟩

/-- The bytes of a character are those that a string has for it. -/
theorem utf8Point_ofChar (c : Char) : utf8Point (CodePoint.ofChar c) = String.utf8EncodeChar c := by
  have hlt : c.val.toNat < 0x110000 := (CodePoint.ofChar c).isLt
  have hval : (CodePoint.ofChar c).val = c.val.toNat := rfl
  rw [utf8Point, hval]
  dsimp only [String.utf8EncodeChar]
  -- the first byte has room for all the bits that are left
  split
  · rw [if_pos (by omega)]
  split
  · have htop : c.val.toNat / 64 % 32 = c.val.toNat / 64 := Nat.mod_eq_of_lt (by omega)
    rw [if_neg (by omega), if_pos (by omega), htop]
    simp only [Nat.add_comm]
  split
  · have htop : c.val.toNat / 4096 % 16 = c.val.toNat / 4096 := Nat.mod_eq_of_lt (by omega)
    rw [if_neg (by omega), if_neg (by omega), if_pos (by omega), htop]
    simp only [Nat.add_comm]
  · have htop : c.val.toNat / 262144 % 8 = c.val.toNat / 262144 := Nat.mod_eq_of_lt (by omega)
    rw [if_neg (by omega), if_neg (by omega), if_neg (by omega), htop]
    simp only [Nat.add_comm]

/-- Characters are encoded as a string of them is. -/
theorem utf8From_map_ofChar (cs : List Char) (pos : Nat) :
    utf8From pos (cs.map CodePoint.ofChar) = .ok (cs.flatMap String.utf8EncodeChar) := by
  induction cs generalizing pos with
  | nil => rfl
  | cons c cs ih =>
    rw [List.map_cons, utf8From, isSurrogate_ofChar, if_neg Bool.false_ne_true, ih,
      utf8Point_ofChar]
    rfl

/-- A text that has bytes is without surrogates. -/
theorem hasSurrogate_of_utf8 {t : Text} {bytes : List UInt8} (h : utf8 t = .ok bytes) :
    t.hasSurrogate = false := by
  cases hsurrogate : t.hasSurrogate with
  | false => rfl
  | true =>
    obtain ⟨fault, hfault⟩ := exists_utf8_eq_error_iff.mpr hsurrogate
    rw [h] at hfault
    exact nomatch hfault

/-- **The decoder takes valid bytes and no others**: those of a string of characters. -/
theorem exists_ofUtf8_eq_iff {bytes : List UInt8} :
    (∃ t, ofUtf8 bytes = .ok t) ↔ bytes.toByteArray.IsValidUTF8 := by
  constructor
  · rintro ⟨t, ht⟩
    have hbytes := utf8_of_ofUtf8 ht
    obtain ⟨cs, rfl⟩ := exists_map_ofChar_eq (hasSurrogate_of_utf8 hbytes)
    have hsame : cs.flatMap String.utf8EncodeChar = bytes :=
      Except.ok.inj ((utf8From_map_ofChar cs 0).symm.trans hbytes)
    exact ⟨cs, congrArg List.toByteArray hsame.symm⟩
  · rintro ⟨cs, hcs⟩
    have hsame : bytes = cs.flatMap String.utf8EncodeChar := List.toByteArray_inj.mp hcs
    refine ⟨cs.map CodePoint.ofChar, ofUtf8_of_utf8 ?_⟩
    rw [hsame]
    exact utf8From_map_ofChar cs 0

end KernelJob.Text
