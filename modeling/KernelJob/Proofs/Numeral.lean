import Mathlib.Algebra.Group.Nat.Defs
import KernelJob.Json.Reader

/-! # Whole numbers in decimal

The digits of a whole number give its value back, and they are the whole part of a number as JSON
spells it: a single zero, or digits that do not begin with a zero.

* **`digitsValue_ofNat`** — the value of the digits of a number is the number.
* **`Text.length_ofNat_le_iff`** — how many digits a number has.
* **`Json.wholePart?_ofNat`** — the reader takes all of them. -/

namespace KernelJob

/-- A decimal digit of a number is one as a code point. -/
theorem Text.isDigit_of_mem_ofNat {n : Nat} {c : CodePoint} (h : c ∈ Text.ofNat n) :
    c.isDigit = true := by
  obtain ⟨d, hd, rfl⟩ := List.mem_map.mp h
  have hdigit := Nat.isDigit_of_mem_toDigits (by decide) (by decide) hd
  simp only [Char.isDigit, ge_iff_le, Bool.and_eq_true, decide_eq_true_eq,
    UInt32.le_iff_toNat_le] at hdigit
  simp only [CodePoint.isDigit, Bool.and_eq_true, decide_eq_true_eq]
  exact hdigit

/-- A number has digits. -/
theorem Text.ofNat_ne_nil (n : Nat) : Text.ofNat n ≠ [] := by
  rw [Text.ofNat, Nat.toDigits_eq_if (by decide)]
  split <;> simp

/-- **The value of the digits of a number is the number.** -/
theorem digitsValue_ofNat (n : Nat) : digitsValue (Text.ofNat n) = n := by
  have hfold : ∀ (ds : List Char) (start : Nat),
      (ds.map CodePoint.ofChar).foldl (fun n c => n * 10 + (c.val - 48)) start =
        Nat.ofDigitChars 10 ds start := by
    intro ds
    induction ds with
    | nil => intro start; rfl
    | cons d ds ih =>
      intro start
      rw [List.map_cons, List.foldl_cons, ih, Nat.ofDigitChars, Nat.ofDigitChars, List.foldl_cons,
        Nat.mul_comm 10 start]
      rfl
  rw [digitsValue, Text.ofNat, hfold]
  exact Nat.ofDigitChars_toDigits (by decide) (by decide)

/-- **A number has at most `k` digits** if and only if it is below that power of ten. -/
theorem Text.length_ofNat_le_iff {n k : Nat} (hk : 0 < k) :
    (Text.ofNat n).length ≤ k ↔ n < 10 ^ k := by
  rw [Text.ofNat, List.length_map]
  exact Nat.length_toDigits_le_iff (by decide) hk

/-- A number other than zero does not begin with a zero. -/
theorem Text.head?_ofNat {n : Nat} (hn : 0 < n) {c : CodePoint}
    (hc : (Text.ofNat n).head? = some c) : c.val ≠ 48 := by
  induction n using Nat.strongRecOn generalizing c with
  | ind n ih =>
    rw [Text.ofNat, Nat.toDigits_eq_if (by decide)] at hc
    split at hc
    · -- a single digit
      rename_i hlt
      have hdigits : ∀ m < 10, 0 < m → (CodePoint.ofChar (Nat.digitChar m)).val ≠ 48 := by decide
      obtain rfl : CodePoint.ofChar (Nat.digitChar n) = c := Option.some.inj hc
      exact hdigits n hlt hn
    · -- the first digit is that of the number without its last digit
      rename_i hge
      have hdiv : 0 < n / 10 := by omega
      refine ih (n / 10) (by omega) hdiv ?_
      rw [List.map_append, List.head?_append] at hc
      have hne := Text.ofNat_ne_nil (n / 10)
      rw [Text.ofNat] at hne ⊢
      rcases hd : (Nat.toDigits 10 (n / 10)).map CodePoint.ofChar with _ | ⟨d, ds⟩
      · exact absurd hd hne
      · rw [hd] at hc
        exact hc

namespace Json

/-- **The digits of a number are its whole part** where no digit follows them. -/
theorem wholePart?_ofNat (n : Nat) {rest : Text} (hrest : ∀ c ∈ rest.head?, c.isDigit = false) :
    wholePart? (Text.ofNat n ++ rest) = some (Text.ofNat n, rest) := by
  have hdigits : ∀ c ∈ Text.ofNat n, c.isDigit = true := fun c hc => Text.isDigit_of_mem_ofNat hc
  rcases Nat.eq_zero_or_pos n with rfl | hn
  · rfl
  obtain ⟨d, ds, hds⟩ := List.exists_cons_of_ne_nil (Text.ofNat_ne_nil n)
  have hd : d.val ≠ 48 := Text.head?_ofNat hn (by rw [hds]; rfl)
  rw [hds] at hdigits ⊢
  have htake : (ds ++ rest).takeWhile CodePoint.isDigit = ds := by
    rw [List.takeWhile_append_of_pos fun c hc => hdigits c (List.mem_cons_of_mem d hc)]
    rcases rest with _ | ⟨c, cs⟩
    · simp
    · simp [hrest c rfl]
  have hdrop : (ds ++ rest).dropWhile CodePoint.isDigit = rest := by
    rw [List.dropWhile_append_of_pos fun c hc => hdigits c (List.mem_cons_of_mem d hc)]
    rcases rest with _ | ⟨c, cs⟩
    · simp
    · simp [hrest c rfl]
  rw [List.cons_append, wholePart?, if_neg hd, if_pos (hdigits d List.mem_cons_self), htake, hdrop]

end Json

end KernelJob
