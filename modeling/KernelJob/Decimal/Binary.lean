import KernelJob.Text.Basic

/-! # Floating-point numbers as exact fractions

A double is a sign, a whole number and a power of two. Everything that is written or rounded in
decimal starts from this exact form.
-/

namespace KernelJob

/-- The exact value of a double. -/
inductive Binary
  /-- No number. -/
  | nan
  /-- An infinity. -/
  | infinite (negative : Bool)
  /-- The number `mantissa * 2 ^ exponent`, negated if `negative`. -/
  | finite (negative : Bool) (mantissa : Nat) (exponent : Int)
deriving DecidableEq, Repr

/-- A power of two. -/
def powerOfTwo (n : Nat) : Nat := Nat.pow 2 n

namespace Binary

/-- The exact value of a double. -/
def ofFloat (x : Float) : Binary :=
  let bits := x.toBits.toNat
  let negative := bits / powerOfTwo 63 == 1
  let biased : Nat := bits / powerOfTwo 52 % powerOfTwo 11
  let fraction := bits % powerOfTwo 52
  if biased = 2047 then if fraction = 0 then .infinite negative else .nan
  else if biased = 0 then .finite negative fraction (-1074)
  else .finite negative (powerOfTwo 52 + fraction) ((biased : Int) - 1075)

/-- The whole part of a finite number, toward zero. -/
def truncate? : Binary → Option Int
  | .finite negative m e =>
    let n : Nat := if 0 ≤ e then m * powerOfTwo e.toNat else m / powerOfTwo (-e).toNat
    some (if negative then -(n : Int) else n)
  | _ => none

/-- The value of a finite number that is whole. -/
def whole? : Binary → Option Int
  | .finite negative m e =>
    if 0 ≤ e then
      let n : Int := m * powerOfTwo e.toNat
      some (if negative then -n else n)
    else if m % powerOfTwo (-e).toNat = 0 then
      let n : Int := (m / powerOfTwo (-e).toNat : Nat)
      some (if negative then -n else n)
    else none
  | _ => none

end Binary

/-- Why a double has no whole part. -/
inductive WholeFault
  | infinite
  | notANumber
deriving DecidableEq, Repr

/-- Why a double has no whole part, in words. -/
def WholeFault.message : WholeFault → Text
  | .infinite => "cannot convert float infinity to integer"
  | .notANumber => "cannot convert float NaN to integer"

/-- The whole part of a double, toward zero. -/
def wholePart (x : Float) : Except WholeFault Int :=
  match Binary.ofFloat x with
  | .nan => .error .notANumber
  | .infinite _ => .error .infinite
  | b => .ok (b.truncate?.getD 0)

end KernelJob
