import KernelJob.Text.Basic

/-! # Code units

A source is cut into code units, each submitted to the kernel on its own.
-/

namespace KernelJob

/-- A fragment of source code that is submitted on its own. -/
structure CodeUnit where
  /-- The place of the unit in its document, from zero on. -/
  sequenceNumber : Int
  /-- The code. -/
  source : Text
  /-- Whether the unit is documentation and never submitted. -/
  skip : Bool := false
deriving DecidableEq, Repr

/-- Whether a unit is submitted. -/
def CodeUnit.isExecutable (u : CodeUnit) : Bool := !u.skip

end KernelJob
