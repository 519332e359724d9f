import KernelJob.Text.Basic

/-! # Base 64

`encode` writes bytes in groups of four letters with padding. `decode` is lenient: it skips every
ASCII character outside the alphabet, also between two padding signs, stops at the padding that
completes a group, and fails only where the letters do not fill one.
-/

namespace KernelJob.Base64

/-- The letter for a value below 64. -/
def letter (v : Nat) : CodePoint :=
  CodePoint.ofNat
    (if v < 26 then 65 + v else if v < 52 then 71 + v else if v < 62 then v - 4
     else if v = 62 then 43 else 47)

/-- The value of a letter. -/
def value? (c : CodePoint) : Option Nat :=
  if 65 ≤ c.val ∧ c.val ≤ 90 then some (c.val - 65)
  else if 97 ≤ c.val ∧ c.val ≤ 122 then some (c.val - 71)
  else if 48 ≤ c.val ∧ c.val ≤ 57 then some (c.val + 4)
  else if c.val = 43 then some 62
  else if c.val = 47 then some 63
  else none

/-- The padding sign. -/
def pad : CodePoint := '='

/-- Bytes in base 64, padded to whole groups. -/
def encode : List UInt8 → Text
  | [] => []
  | [a] => [letter (a.toNat / 4), letter (a.toNat % 4 * 16), pad, pad]
  | [a, b] =>
    [letter (a.toNat / 4), letter (a.toNat % 4 * 16 + b.toNat / 16), letter (b.toNat % 16 * 4), pad]
  | a :: b :: c :: rest =>
    letter (a.toNat / 4) :: letter (a.toNat % 4 * 16 + b.toNat / 16) ::
      letter (b.toNat % 16 * 4 + c.toNat / 64) :: letter (c.toNat % 64) :: encode rest

/-- Why a text does not decode. -/
inductive Fault
  /-- A code point that is not ASCII. -/
  | notAscii
  /-- A last group of a single letter; `letters` counts all letters. -/
  | loneLetter (letters : Nat)
  /-- A last group that lacks its padding. -/
  | incorrectPadding
deriving DecidableEq, Repr

/-- What the message of a failure says. -/
def Fault.message : Fault → Text
  | .notAscii => "string argument should contain only ASCII characters"
  | .loneLetter n =>
    "Invalid base64-encoded string: number of data characters (" ++ Text.ofNat n ++
      ") cannot be 1 more than a multiple of 4"
  | .incorrectPadding => "Incorrect padding"

/-- How far the current group has come. -/
structure Progress where
  /-- The letters of the group so far, below four. -/
  place : Nat := 0
  /-- The bits not yet given out. -/
  left : Nat := 0
  /-- The padding signs since the last letter. -/
  pads : Nat := 0
  /-- All letters so far. -/
  letters : Nat := 0
deriving Repr

/-- The bytes of the rest of a text after some progress. -/
def decodeFrom (p : Progress) : Text → Except Fault (List UInt8)
  | [] =>
    if p.place = 0 then .ok []
    else if p.place = 1 then .error (.loneLetter p.letters)
    else .error .incorrectPadding
  | c :: cs =>
    if c = pad then
      if 2 ≤ p.place ∧ 4 ≤ p.place + (p.pads + 1) then .ok []
      else decodeFrom { p with pads := p.pads + 1 } cs
    else
      match value? c with
      | none => decodeFrom p cs
      | some v =>
        if p.place = 0 then decodeFrom ⟨1, v, 0, p.letters + 1⟩ cs
        else if p.place = 1 then
          (decodeFrom ⟨2, v % 16, 0, p.letters + 1⟩ cs).map
            (UInt8.ofNat (p.left * 4 + v / 16) :: ·)
        else if p.place = 2 then
          (decodeFrom ⟨3, v % 4, 0, p.letters + 1⟩ cs).map
            (UInt8.ofNat (p.left * 16 + v / 4) :: ·)
        else
          (decodeFrom ⟨0, 0, 0, p.letters + 1⟩ cs).map (UInt8.ofNat (p.left * 64 + v) :: ·)

/-- The bytes that an ASCII text stands for. -/
def decode (t : Text) : Except Fault (List UInt8) :=
  if t.isAscii then decodeFrom {} t else .error .notAscii

end KernelJob.Base64
