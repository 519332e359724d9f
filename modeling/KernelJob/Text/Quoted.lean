import KernelJob.Text.Printable

/-! # Quoted texts

The quoted form of a text in messages: single quotes, unless the text holds a single quote and no
double one, and an escape for every code point that would not show.
-/

namespace KernelJob.Text

/-- A hexadecimal digit in lower case. -/
def hexDigit (n : Nat) : CodePoint :=
  CodePoint.ofNat (if n % 16 < 10 then 48 + n % 16 else 87 + n % 16)

/-- The last `width` hexadecimal digits of a number. -/
def hex : Nat → Nat → Text
  | 0, _ => []
  | width + 1, n => hex width (n / 16) ++ [hexDigit n]

/-- A code point by its number, in two, four or eight hexadecimal digits. -/
def escapedPoint (c : CodePoint) : Text :=
  if c.val < 0x100 then "\\x" ++ hex 2 c.val
  else if c.val < 0x10000 then "\\u" ++ hex 4 c.val
  else "\\U" ++ hex 8 c.val

/-- How a code point stands between two quotes `q`. -/
def quotedPoint (q c : CodePoint) : Text :=
  if c = q ∨ c.val = 92 then [CodePoint.ofNat 92, c]
  else if c.val = 9 then "\\t"
  else if c.val = 10 then "\\n"
  else if c.val = 13 then "\\r"
  else if c.isPrintable then [c]
  else escapedPoint c

/-- The single quote. -/
def singleQuote : CodePoint := CodePoint.ofNat 39

/-- The double quote. -/
def doubleQuote : CodePoint := CodePoint.ofNat 34

/-- The quote that stands around a text: the double one only where that saves an escape. -/
def quoteFor (t : Text) : CodePoint :=
  if t.any (· == singleQuote) && !t.any (· == doubleQuote) then doubleQuote else singleQuote

/-- A text between quotes. -/
def quoted (t : Text) : Text :=
  let q := quoteFor t
  q :: t.flatMap (quotedPoint q) ++ [q]

end KernelJob.Text
