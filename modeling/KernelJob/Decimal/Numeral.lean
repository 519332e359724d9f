import KernelJob.Text.Blank
import KernelJob.Text.Quoted

/-! # Numerals

Whole numbers as they are written by hand: blanks, a sign, decimal digits of any script with single
underscores between them, and blanks again. `Numeral.fault?` says why a text is no such numeral.
-/

namespace KernelJob

/-- The most digits that a whole number may have. -/
def digitLimit : Nat := 4300

namespace Numeral

/-- The zeros of the scripts that have decimal digits; the other nine digits follow each of them. -/
def zeros : List Nat := [
  0x30, 0x660, 0x6F0, 0x7C0, 0x966, 0x9E6, 0xA66, 0xAE6, 0xB66, 0xBE6, 0xC66, 0xCE6, 0xD66, 0xDE6,
  0xE50, 0xED0, 0xF20, 0x1040, 0x1090, 0x17E0, 0x1810, 0x1946, 0x19D0, 0x1A80, 0x1A90, 0x1B50,
  0x1BB0, 0x1C40, 0x1C50, 0xA620, 0xA8D0, 0xA900, 0xA9D0, 0xA9F0, 0xAA50, 0xABF0, 0xFF10, 0x104A0,
  0x10D30, 0x11066, 0x110F0, 0x11136, 0x111D0, 0x112F0, 0x11450, 0x114D0, 0x11650, 0x116C0,
  0x11730, 0x118E0, 0x11950, 0x11C50, 0x11D50, 0x11DA0, 0x16A60, 0x16AC0, 0x16B50, 0x1D7CE,
  0x1D7D8, 0x1D7E2, 0x1D7EC, 0x1D7F6, 0x1E140, 0x1E2F0, 0x1E950, 0x1FBF0]

/-- Whether a code point is a decimal digit of some script. -/
def isDigit (c : CodePoint) : Bool := zeros.any fun first => first ≤ c.val && c.val < first + 10

/-- Whether a code point may stand around a numeral: a blank, but no separator of ASCII. -/
def isMargin (c : CodePoint) : Bool := c.isBlank && !(28 ≤ c.val && c.val ≤ 31)

/-- Why a text is no numeral. -/
inductive Fault
  | malformed (text : Text)
  /-- There are more digits than are read. -/
  | tooManyDigits (count : Nat)
deriving DecidableEq, Repr

/-- Why a text is no numeral, in words; of a long text only the beginning is shown. -/
def Fault.message : Fault → Text
  | .malformed t => "invalid literal for int() with base 10: " ++ t.quoted.take 200
  | .tooManyDigits n =>
    "Exceeds the limit (" ++ Text.ofNat digitLimit ++
      " digits) for integer string conversion: value has " ++ Text.ofNat n ++
      " digits; use sys.set_int_max_str_digits() to increase the limit"

/-- A sign, if there is one, and whether it is a minus sign. -/
def takeSign : Text → Bool × Text
  | c :: cs =>
    if c.val = 45 then (true, cs) else if c.val = 43 then (false, cs) else (false, c :: cs)
  | [] => (false, [])

/-- The number of digits up to the end of a run of them, `count` of which came before, and what
follows the run; `between` tells that a digit has to come next. -/
def takeDigits? (count : Nat) (between : Bool) : Text → Option (Nat × Text)
  | [] => if between then none else some (count, [])
  | c :: cs =>
    if isDigit c then takeDigits? (count + 1) false cs
    else if between then none
    else if c.val = 95 then takeDigits? count true cs
    else some (count, c :: cs)

/-- Why a text is no numeral, if it is none. -/
def fault? (t : Text) : Option Fault :=
  match takeDigits? 0 true (takeSign (t.dropWhile isMargin)).2 with
  | none => some (.malformed t)
  | some (count, rest) =>
    if digitLimit < count then some (.tooManyDigits count)
    else if rest.all isMargin then none
    else some (.malformed t)

end Numeral

end KernelJob
