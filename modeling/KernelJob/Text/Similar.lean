import KernelJob.Text.Basic

/-! # Similar texts

How alike two texts are is measured by blocks that they share: the longest block first, then the
longest ones to its left and to its right, and so on. `similar` picks the texts of a list that are
most like a given one; it serves to guess what a mistyped name was meant to be.
-/

namespace KernelJob.Text

/-- A block that two texts share, by its start in each and its length. -/
structure Block where
  left : Nat
  right : Nat
  size : Nat
deriving DecidableEq, Repr

/-- The length of the longest common start of two texts. -/
def commonStart : Text → Text → Nat
  | c :: cs, d :: ds => if c = d then commonStart cs ds + 1 else 0
  | _, _ => 0

@[simp] theorem commonStart_self (t : Text) : commonStart t t = t.length := by
  induction t with
  | nil => rfl
  | cons c t ih => simp [commonStart, ih]

theorem commonStart_le_left (s t : Text) : commonStart s t ≤ s.length := by
  induction s generalizing t with
  | nil => simp [commonStart]
  | cons c s ih =>
    cases t with
    | nil => simp [commonStart]
    | cons d t =>
      by_cases h : c = d
      · simpa [commonStart, h] using ih t
      · simp [commonStart, h]

/-- The larger of two blocks, the first one of equals. -/
def Block.larger (a b : Block) : Block := if a.size < b.size then b else a

/-- The longest block that two texts share; of equally long ones the leftmost in the first text and
then the leftmost in the second. -/
def longestBlock (s t : Text) : Block :=
  (List.range s.length).foldl (fun best i =>
    (List.range t.length).foldl (fun best j =>
      best.larger ⟨i, j, commonStart (s.drop i) (t.drop j)⟩) best) ⟨0, 0, 0⟩

/-- How many code points two texts share in blocks. -/
def sharedLength (s t : Text) : Nat :=
  match longestBlock s t with
  | ⟨i, j, k⟩ =>
    if _h : 0 < k ∧ i < s.length then
      sharedLength (s.take i) (t.take j) + k + sharedLength (s.drop (i + k)) (t.drop (j + k))
    else 0
termination_by s.length
decreasing_by
  · simp only [List.length_take]; omega
  · simp only [List.length_drop]; omega

/-- Whether two texts are alike: the shared code points make up at least three fifths of both. -/
def isSimilar (s t : Text) : Bool := 3 * (s.length + t.length) ≤ 10 * sharedLength s t

/-- The order of code points, text by text. -/
def before : Text → Text → Bool
  | _, [] => false
  | [], _ => true
  | c :: cs, d :: ds => c.val < d.val || (c.val == d.val && before cs ds)

/-- Whether `s` is more like `word` than `t` is; of equals the later one in order counts as more
alike. -/
def closer (word s t : Text) : Bool :=
  let x := sharedLength s word * (t.length + word.length)
  let y := sharedLength t word * (s.length + word.length)
  y < x || (x == y && before t s)

/-- At most `count` texts of a list that are alike a word, most alike first. -/
def similar (count : Nat) (candidates : List Text) (word : Text) : List Text :=
  ((candidates.filter (isSimilar · word)).mergeSort fun s t => !closer word t s).take count

end KernelJob.Text
