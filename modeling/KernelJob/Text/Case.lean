import KernelJob.Text.Blank
import KernelJob.Text.Case.Table

/-! # Letter cases

Upper and lower case of a text, letter by letter. Some letters become several: the upper case of a
sharp s is a double S.
-/

namespace KernelJob

namespace Text

/-- Whether a run of code points with one shift has `n` in it. -/
def CaseRange.Covers (r : CaseRange) (n : Nat) : Bool :=
  r.first ≤ n && n ≤ r.last && (n - r.first) % r.step == 0

/-- The code points that `n` becomes under one table of cases. -/
def caseOf (ranges : List CaseRange) (expansions : List (Nat × List Nat)) (c : CodePoint) : Text :=
  match expansions.lookup c.val with
  | some ns => ns.map CodePoint.ofNat
  | none =>
    match ranges.find? (·.Covers c.val) with
    | some r => [CodePoint.ofNat (Int.toNat (c.val + r.shift))]
    | none => [c]

end Text

/-- A code point in upper case. -/
def CodePoint.upper (c : CodePoint) : Text :=
  if 97 ≤ c.val ∧ c.val ≤ 122 then [CodePoint.ofNat (c.val - 32)]
  else if c.val < 128 then [c]
  else Text.caseOf Text.upperRanges Text.upperExpansions c

/-- A code point in lower case. -/
def CodePoint.lower (c : CodePoint) : Text :=
  if 65 ≤ c.val ∧ c.val ≤ 90 then [CodePoint.ofNat (c.val + 32)]
  else if c.val < 128 then [c]
  else Text.caseOf Text.lowerRanges Text.lowerExpansions c

namespace Text

/-- A text in upper case. -/
def upper (t : Text) : Text := t.flatMap CodePoint.upper

/-- A text in lower case, letter by letter. A capital sigma becomes the small one that stands inside
of words, also at the end of a word, where another one would be due. Neither is ASCII, so this makes
no difference to whether the text is some name of ASCII, which is all that it is used for. -/
def lower (t : Text) : Text := t.flatMap CodePoint.lower

/-- The code points other than those with a lower case that fold to ASCII letters: the long s and
the ligatures of Latin letters. -/
def foldingLigatures : List (Nat × List Nat) :=
  [(0x17F, [115]), (0xDF, [115, 115]), (0x1E9E, [115, 115]), (0xFB00, [102, 102]),
   (0xFB01, [102, 105]), (0xFB02, [102, 108]),
   (0xFB03, [102, 102, 105]), (0xFB04, [102, 102, 108]), (0xFB05, [115, 116]), (0xFB06, [115, 116])]

/-- A text with the differences of letter case removed, as far as the outcome is ASCII: two words,
one of them ASCII, are the same but for letter case iff their folded texts agree. -/
def foldCase (t : Text) : Text :=
  t.flatMap fun c => match foldingLigatures.lookup c.val with
    | some ns => ns.map CodePoint.ofNat
    | none => c.lower

/-- A name without surrounding blanks and in lower case, the form in which names of formats are
compared. All of them are ASCII, and a name with a sigma is none of them. -/
def normalizedName (t : Text) : Text := t.trim.lower

end Text

end KernelJob
