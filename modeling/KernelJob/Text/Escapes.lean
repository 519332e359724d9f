import KernelJob.Text.Basic

/-! # Terminal escapes

A control sequence begins with the escape character and an opening bracket; then come parameters,
then intermediates, and one final character. A `ControlForm` says which code points may stand in
each part. Colours are the sequences of digits and semicolons that end with a letter; terminals
understand more.
-/

namespace KernelJob.Text

/-- The code points that control sequences of some form consist of. -/
structure ControlForm where
  isParameter : CodePoint → Bool
  isIntermediate : CodePoint → Bool
  isFinal : CodePoint → Bool

namespace ControlForm

/-- The sequences for colours: digits and semicolons, then a letter. -/
def colour : ControlForm where
  isParameter c := c.isDigit || c.val == 59
  isIntermediate _ := false
  isFinal := CodePoint.isLetter

/-- All control sequences of a terminal: parameters from `0` to `?`, intermediates from the space to
`/`, and a final character from `@` to `~`. -/
def terminal : ControlForm where
  isParameter c := 0x30 ≤ c.val && c.val ≤ 0x3F
  isIntermediate c := 0x20 ≤ c.val && c.val ≤ 0x2F
  isFinal c := 0x40 ≤ c.val && c.val ≤ 0x7E

/-- What follows a control sequence whose escape character has been read, if there is one. -/
def after? (form : ControlForm) : Text → Option Text
  | b :: rest =>
    if b.val = 91 then
      match (rest.dropWhile form.isParameter).dropWhile form.isIntermediate with
      | c :: tail => if form.isFinal c then some tail else none
      | [] => none
    else none
  | [] => none

end ControlForm

/-- A text without its control sequences; `fuel` bounds the scan and the length of the text is
enough. -/
def stripControlsFuel (form : ControlForm) : Nat → Text → Text
  | 0, t => t
  | _ + 1, [] => []
  | fuel + 1, c :: cs =>
    if c.val = 27 then
      match form.after? cs with
      | some rest => stripControlsFuel form fuel rest
      | none => c :: stripControlsFuel form fuel cs
    else c :: stripControlsFuel form fuel cs

/-- A text without its control sequences of some form. -/
def stripControls (form : ControlForm) (t : Text) : Text := stripControlsFuel form t.length t

/-- A text without its colours. -/
def stripColours (t : Text) : Text := stripControls .colour t

/-- A text without its terminal commands. -/
def stripCommands (t : Text) : Text := stripControls .terminal t

end KernelJob.Text
