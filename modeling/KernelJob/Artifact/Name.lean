import KernelJob.Text.Blank

/-! # Names for directories

A label is turned into a name that can stand as one component of a path: no separator, no character
that a shell treats specially, no dot at its start, and never empty.
-/

namespace KernelJob

/-- The code points that a name leaves out: `;`, `!`, `?`, quotes of all kinds and the colon. -/
def isLeftOut (c : CodePoint) : Bool :=
  c.val == 59 || c.val == 33 || c.val == 63 || c.val == 34 || c.val == 39 || c.val == 96 ||
    c.val == 58

/-- The code points that an underscore replaces: separators, signs of the shell, the euro sign and
the plain blank. -/
def becomesUnderscore (c : CodePoint) : Bool :=
  (("/\\$#%&<>*+=^€| " : Text).any (· == c))

/-- A code point as it stands in a name: braces and brackets become parentheses. -/
def nameCodePoint (c : CodePoint) : CodePoint :=
  if c.val = 123 ∨ c.val = 91 then '('
  else if c.val = 125 ∨ c.val = 93 then ')'
  else if becomesUnderscore c then '_'
  else c

/-- The dot. -/
def dot : CodePoint := '.'

/-- The name for a label. -/
def fileName (label : Text) : Text :=
  let name := ((label.trim.filter (!isLeftOut ·)).map nameCodePoint).dropWhile (· == dot)
  if name = [] then "_" else name

end KernelJob
