import KernelJob.Decimal.Binary
import KernelJob.Text.Basic

/-! # Decimal digits of a number

A positive fraction is brought to decimal digits in two ways: to the fewest digits that are nearer
to it than to any other double, and rounded to a fixed number of digits. `Digits.write` lays the
digits out, by place value or with an exponent.
-/

namespace KernelJob

/-- Decimal digits: the number `value * 10 ^ exponent`, where `value` has `count` digits. -/
structure Digits where
  value : Nat
  exponent : Int
deriving DecidableEq, Repr

/-- The number of decimal digits of a natural number; zero has none. -/
def decimalLength (n : Nat) : Nat := if n = 0 then 0 else (Nat.toDigits 10 n).length

/-- A power of ten. -/
def powerOfTen (n : Nat) : Nat := Nat.pow 10 n

namespace Digits

/-- The exponent of the leading decimal digit of the positive fraction `num / den`. -/
def leadingExponent (num den : Nat) : Int :=
  if den ≤ num then (decimalLength (num / den) : Int) - 1
  else -(decimalLength ((den + num - 1) / num - 1) : Int)

/-- The fraction `num / den` in units of `10 ^ exponent`, as a fraction. -/
def scaled (num den : Nat) (exponent : Int) : Nat × Nat :=
  if 0 ≤ exponent then (num, den * powerOfTen exponent.toNat)
  else (num * powerOfTen (-exponent).toNat, den)

/-- A fraction rounded to the nearest whole number, a tie to the even one. -/
def roundHalfEven (num den : Nat) : Nat :=
  let q := num / den
  let r := num % den
  if 2 * r < den then q
  else if den < 2 * r then q + 1
  else if q % 2 = 0 then q else q + 1

/-- A positive fraction rounded to `count` digits. -/
def rounded (count num den : Nat) : Digits :=
  let exponent := leadingExponent num den - count + 1
  let (n, d) := scaled num den exponent
  ⟨roundHalfEven n d, exponent⟩

/-- The digits without zeros at their end; `fuel` bounds their number. -/
def stripZeros : Nat → Digits → Digits
  | 0, d => d
  | fuel + 1, d =>
    if d.value ≠ 0 ∧ d.value % 10 = 0 then stripZeros fuel ⟨d.value / 10, d.exponent + 1⟩ else d

/-- The first candidate with at most `count` digits, then one more and so on, that lies between
`low` and `high`, both in the unit `1 / den` of the value `num`. -/
def shortestFrom (num low high den : Nat) (closed : Bool) : Nat → Nat → Digits
  | 0, count => rounded count num den
  | fuel + 1, count =>
    let exponent := leadingExponent num den - count + 1
    let (n, d) := scaled num den exponent
    let (l, _) := scaled low den exponent
    let (h, _) := scaled high den exponent
    let inside (c : Nat) : Bool :=
      if closed then l ≤ c * d && c * d ≤ h else l < c * d && c * d < h
    let below := n / d
    let above := below + 1
    let nearest := roundHalfEven n d
    if inside nearest then ⟨nearest, exponent⟩
    else if inside below then ⟨below, exponent⟩
    else if inside above then ⟨above, exponent⟩
    else shortestFrom num low high den closed fuel (count + 1)

/-- The fewest digits that read back as the positive double `mantissa * 2 ^ exponent`, and of those
the nearest to it. -/
def shortest (mantissa : Nat) (exponent : Int) : Digits :=
  let unit : Nat := if 0 ≤ exponent then powerOfTwo exponent.toNat else 1
  let den : Nat := 4 * (if 0 ≤ exponent then 1 else powerOfTwo (-exponent).toNat)
  let num := 4 * mantissa * unit
  let high := (4 * mantissa + 2) * unit
  let low :=
    (if mantissa = powerOfTwo 52 ∧ -1074 < exponent then 4 * mantissa - 1 else 4 * mantissa - 2) *
      unit
  stripZeros 20 (shortestFrom num low high den (mantissa % 2 == 0) 17 1)

/-- How digits are laid out. -/
structure Layout where
  /-- The least exponent of the leading digit that is written by place value. -/
  least : Int
  /-- The exponent of the leading digit from which on an exponent is written. -/
  bound : Int
  /-- Whether a whole number written by place value ends in a point and a zero. -/
  pointZero : Bool

/-- An exponent with its sign and at least two digits. -/
def writeExponent (e : Int) : Text :=
  let digits := Text.ofNat e.natAbs
  (if e < 0 then ("e-" : Text) else "e+") ++ (if digits.length < 2 then "0" ++ digits else digits)

/-- Digits laid out. -/
def write (layout : Layout) (d : Digits) : Text :=
  let digits := Text.ofNat d.value
  let lead : Int := d.exponent + digits.length - 1
  if layout.least ≤ lead ∧ lead < layout.bound then
    if 0 ≤ d.exponent then
      digits ++ List.replicate d.exponent.toNat (CodePoint.ofChar '0') ++
        (if layout.pointZero then (".0" : Text) else [])
    else if 0 ≤ lead then digits.take (lead.toNat + 1) ++ "." ++ digits.drop (lead.toNat + 1)
    else "0." ++ List.replicate (-lead - 1).toNat (CodePoint.ofChar '0') ++ digits
  else
    digits.take 1 ++ (if digits.length = 1 then [] else ("." : Text) ++ digits.drop 1) ++
      writeExponent lead

end Digits

namespace Text

/-- A double laid out by one layout, its digits chosen by `digits` from mantissa and exponent. -/
def ofBinary (layout : Digits.Layout) (digits : Nat → Int → Digits) : Binary → Text
  | .nan => "nan"
  | .infinite negative => if negative then "-inf" else "inf"
  | .finite negative m e =>
    (if negative then ("-" : Text) else []) ++
      (if m = 0 then (if layout.pointZero then ("0.0" : Text) else "0")
       else (digits m e).write layout)

/-- A double with the fewest digits that read back as it: by place value from `1e-04` up to `1e+16`,
always with a point or an exponent. -/
def ofFloat (x : Float) : Text :=
  ofBinary ⟨-4, 16, true⟩ Digits.shortest (Binary.ofFloat x)

/-- The six leading digits of a positive double, without zeros at their end. -/
def sixDigits (m : Nat) (e : Int) : Digits :=
  (if 0 ≤ e then Digits.rounded 6 (m * powerOfTwo e.toNat) 1
   else Digits.rounded 6 m (powerOfTwo (-e).toNat)).stripZeros 8

/-- A double rounded to six digits: by place value from `1e-04` up to `1e+06`, no needless zeros. -/
def ofFloatSix (x : Float) : Text :=
  ofBinary ⟨-4, 6, false⟩ sixDigits (Binary.ofFloat x)

end Text

end KernelJob
