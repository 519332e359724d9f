import KernelJob.Json.Misfit
import KernelJob.Source.CodeUnit

/-! # Notebooks

A notebook is a list of cells. Cells of code become code units, numbered by their place among all
cells; every other cell is dropped. Documents of an older format keep their cells elsewhere and are
brought to the current form first.
-/

namespace KernelJob

/-- A cell of a notebook. -/
inductive Cell
  /-- A cell of code. -/
  | code (source : Text)
  /-- A cell of anything else. -/
  | other
deriving DecidableEq, Repr

/-- A required part that a notebook lacks. -/
inductive NotebookFault
  | notAnObject
  | noCells
  | cellNotAnObject (index : Nat)
  | noCellType (index : Nat)
  | noSource (index : Nat)
  | sourceNotText (index : Nat)
deriving DecidableEq, Repr

/-- What is missing, in words. -/
def NotebookFault.message : NotebookFault → Text
  | .notAnObject => "Notebook is not a JSON object"
  | .noCells => "Notebook has no list of cells"
  | .cellNotAnObject i => "Cell " ++ Text.ofNat i ++ " is not a JSON object"
  | .noCellType i => "Cell " ++ Text.ofNat i ++ " has no cell type"
  | .noSource i => "Code cell " ++ Text.ofNat i ++ " has no source"
  | .sourceNotText i => "Code cell " ++ Text.ofNat i ++ " has a source that is not text"

namespace Cell

open Unread

/-- The type of a cell. -/
def typeOf (cell : Json) : Except Misfit Json := cell.field "cell_type"

/-- The source of a cell, a list of texts as one text. -/
def sourceOf (cell : Json) : Except Misfit Json :=
  match cell.field "source" with
  | .ok source => source.joined
  | .error m => .error m

/-- The cell at some index of a notebook. -/
def read (index : Nat) (cell : Json) : Except (Unread NotebookFault) Cell := do
  require cell.isObject (.cellNotAnObject index)
  require (← use (cell.holds "cell_type")) (.noCellType index)
  let type ← use (typeOf cell)
  if type.isText "code" then
    require (← use (cell.holds "source")) (.noSource index)
    require (← use (cell.field "source")).isSource (.sourceNotText index)
    let source ← useText (← use (sourceOf cell))
    return .code source
  else return .other

/-- The cells of a notebook from some index on. -/
def readFrom (index : Nat) : List Json → Except (Unread NotebookFault) (List Cell)
  | [] => .ok []
  | v :: vs =>
    match read index v with
    | .error fault => .error fault
    | .ok cell => (readFrom (index + 1) vs).map (cell :: ·)

/-- The units of the cells from some index on. -/
def unitsFrom (index : Nat) : List Cell → List CodeUnit
  | [] => []
  | .code source :: cells => ⟨index, source, false⟩ :: unitsFrom (index + 1) cells
  | .other :: cells => unitsFrom (index + 1) cells

end Cell

/-- A notebook. -/
structure Notebook where
  cells : List Cell
deriving DecidableEq, Repr

namespace Notebook

/-- The units of a notebook, one for each cell of code. -/
def units (nb : Notebook) : List CodeUnit := Cell.unitsFrom 0 nb.cells

/-- The notebook whose cells a value lists. -/
def ofCells : Option Json → Except (Unread NotebookFault) Notebook
  | some (.list items) => (Cell.readFrom 0 items).map Notebook.mk
  | _ => .error (.lacking .noCells)

end Notebook

end KernelJob
