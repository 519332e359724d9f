import KernelJob.Text.Basic

/-! # Lines

A text is cut into lines at every line boundary of Unicode; a carriage return followed by a newline
is one boundary, and a text that ends in a boundary has no empty last line.
-/

namespace KernelJob

/-- The code points that end a line. -/
def CodePoint.isLineEnd (c : CodePoint) : Bool :=
  (10 ≤ c.val && c.val ≤ 13) || (28 ≤ c.val && c.val ≤ 30) || c.val == 0x85 ||
  c.val == 0x2028 || c.val == 0x2029

namespace Text

/-- The lines of a text whose first line has begun with `line`. -/
def linesFrom (line : Text) : Text → List Text
  | [] => if line.isEmpty then [] else [line.reverse]
  | c :: cs =>
    if c.isLineEnd then
      if c.val = 13 then
        match cs with
        | d :: ds => if d.val = 10 then line.reverse :: linesFrom [] ds
                     else line.reverse :: linesFrom [] (d :: ds)
        | [] => [line.reverse]
      else line.reverse :: linesFrom [] cs
    else linesFrom (c :: line) cs

/-- The lines of a text, without their ends. -/
def lines (t : Text) : List Text := linesFrom [] t

@[simp] theorem lines_nil : lines [] = [] := rfl

end Text

end KernelJob
