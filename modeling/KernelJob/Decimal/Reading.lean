import KernelJob.Decimal.Digits

/-! # Reading decimals

The double nearest to a decimal, and the value of a run of decimal digits.
-/

namespace KernelJob

/-- The value of a run of decimal digits. -/
def digitsValue (t : Text) : Nat := t.foldl (fun n c => n * 10 + (c.val - 48)) 0

/-- The double nearest to `value * 10 ^ exponent`. Decimals far above the largest double are
infinite and decimals far below the least one are zero. -/
def nearestFloat (value : Nat) (exponent : Int) : Float :=
  if value = 0 then 0.0
  else
    let lead : Int := exponent + decimalLength value
    if 400 < lead then 1.0 / 0.0
    else if lead < -400 then 0.0
    else if 0 ≤ exponent then Float.ofScientific (value * powerOfTen exponent.toNat) false 0
    else Float.ofScientific value true (-exponent).toNat

/-- The double nearest to a whole number, infinite if it is too large. -/
def nearestFloatOfInt (n : Int) : Float :=
  let x := nearestFloat n.natAbs 0
  if n < 0 then -x else x

/-- The positive infinity. -/
def positiveInfinity : Float := 1.0 / 0.0

/-- A double that is no number. -/
def notANumber : Float := 0.0 / 0.0

end KernelJob
