import KernelJob.Text.Basic

/-! # Blanks

Which code points count as blank, and the operations that trim a text or cut it at blanks.
-/

namespace KernelJob

/-- Blank code points: the white space and the paragraph, line and field separators of Unicode. -/
def CodePoint.isBlank (c : CodePoint) : Bool :=
  (9 ≤ c.val && c.val ≤ 13) || (28 ≤ c.val && c.val ≤ 32) || c.val == 0x85 || c.val == 0xA0 ||
  c.val == 0x1680 || (0x2000 ≤ c.val && c.val ≤ 0x200A) || c.val == 0x2028 || c.val == 0x2029 ||
  c.val == 0x202F || c.val == 0x205F || c.val == 0x3000

namespace Text

/-- A text without the blanks at its start. -/
def trimLeft (t : Text) : Text := t.dropWhile CodePoint.isBlank

/-- A text without the blanks at its end. -/
def trimRight (t : Text) : Text := (t.reverse.dropWhile CodePoint.isBlank).reverse

/-- A text without the blanks at its start and its end. -/
def trim (t : Text) : Text := t.trimLeft.trimRight

/-- Whether a text holds nothing but blanks. -/
def isBlank (t : Text) : Bool := t.all CodePoint.isBlank

/-- The first word of a text, empty if there is none. -/
def firstWord (t : Text) : Text := t.trimLeft.takeWhile (fun c => !c.isBlank)

theorem trim_eq_nil_iff {t : Text} : t.trim = [] ↔ t.isBlank = true := by
  have key : ∀ u : Text, u.dropWhile CodePoint.isBlank = [] ↔ u.all CodePoint.isBlank = true := by
    intro u
    induction u with
    | nil => simp
    | cons c u ih =>
      by_cases h : c.isBlank = true
      · simp [h, ih]
      · simp [h]
  unfold trim trimRight isBlank
  rw [List.reverse_eq_nil_iff, key, List.all_reverse]
  unfold trimLeft
  induction t with
  | nil => simp
  | cons c t ih =>
    by_cases h : c.isBlank = true
    · simpa [h] using ih
    · simp [h]

end Text

end KernelJob
