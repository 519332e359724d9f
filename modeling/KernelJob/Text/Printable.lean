import KernelJob.Text.Basic
import KernelJob.Text.Printable.Table

/-! # Printable code points

Which code points show as themselves when a text is quoted.
-/

namespace KernelJob

/-- Whether a code point shows as itself: not a control, a separator other than the plain blank, a
surrogate, or a code point without an assigned character. -/
def CodePoint.isPrintable (c : CodePoint) : Bool :=
  if c.val < 127 then 32 ≤ c.val
  else Text.printableRanges.any fun r => r.1 ≤ c.val && c.val ≤ r.2

end KernelJob
