import KernelJob.Source.OldNotebook.Listed
import KernelJob.Source.OldNotebook.Worksheet

/-! # Older notebooks

Documents of versions 1 to 3 keep their cells elsewhere and under other keys than those of version
4. `Notebook.cellsOf` gives the cells of a document of any version in the current form.
-/

namespace KernelJob

namespace Notebook

/-- The version that a value stands for, if it is a whole number; `true` is version 1 and `false`
version 0. -/
def versionNumber? : Json → Option Int
  | .int n => some n
  | .bool b => some (if b then 1 else 0)
  | _ => none

/-- The cells of a document of any version, in the current form. -/
def cellsOf (fields : Fields) : Except UpgradeFault (Option Json) :=
  let version := (fields.get? "nbformat").getD (.int 4)
  match versionNumber? version with
  | none => .error (.version (.notWhole version))
  | some n =>
    if 4 ≤ n then .ok (fields.get? "cells")
    else if n = 3 then (OldNotebook.thirdCells fields).map fun cells => some (.list cells)
    else if n = 2 then (OldNotebook.secondCells fields).map fun cells => some (.list cells)
    else if n = 1 then (OldNotebook.firstCells version fields).map fun cells => some (.list cells)
    else .error (.version (.unsupported version))

end Notebook

end KernelJob
