import KernelJob.Source.OldNotebook.Part

/-! # Cells of the first version

Documents of version 1 list their cells at the top, the source of a cell of code under `code`.
`OldNotebook.firstCells` gives the cells of such a document in the current form.
-/

namespace KernelJob

namespace OldNotebook

/-- Looks at the prompt number of a cell of code, which has to have a whole part. -/
def checkPrompt : Json → Except UpgradeFault Unit
  | .float x =>
    match wholePart x with
    | .ok _ => .ok ()
    | .error .infinite => .error (.breakdown .promptNumber)
    | .error .notANumber => .error (.unfit .promptNotANumber)
  | .text t =>
    match Numeral.fault? t with
    | none => .ok ()
    | some fault => .error (.unfit (.prompt fault))
  | .list _ => .error (.ofMisfit (.notWhole "list"))
  | .object fields => .error (.ofMisfit (.notWhole (kindName (.object fields))))
  | _ => .ok ()

/-- A cell in the current form, unless it is of an unknown type. -/
def listedCell? (stage : UpgradeStage) (cell : Json) : Except UpgradeFault (Option Json) := do
  let type ← part stage cell "cell_type"
  let fields := cell.fields?.getD []
  if type.isText "code" then
    let source := match fields.get? "code" with
      | none | some .null => []
      | some v => v.shown
    checkPrompt ((fields.get? "prompt_number").getD .null)
    return some (.object [("cell_type", type), ("source", .text source)])
  else if type.isText "text" then return some (.object [("cell_type", .text "markdown")])
  else return none

/-- Cells in the current form, nothing for one of an unknown type; there has to be another one
before it. -/
def listedCells (stage : UpgradeStage) (started : Bool) :
    List Json → Except UpgradeFault (List (Option Json))
  | [] => .ok []
  | v :: vs => do
    match ← listedCell? stage v with
    | none =>
      if started then return none :: (← listedCells stage true vs)
      else throw (.breakdown .unknownFirstCell)
    | some cell => return some cell :: (← listedCells stage true vs)

/-- A cell without its source. -/
def emptied : Json → Json
  | .object fields => .object (Fields.set "source" (.text []) fields)
  | v => v

/-- Cells with the cell before it, `last`, in place of each one of an unknown type. A cell that
stands for others too has lost its source. -/
def repeated (last : Json) : List (Option Json) → List Json
  | [] => []
  | none :: cells => last :: repeated last cells
  | some cell :: cells =>
    let cell := match cells with
      | none :: _ => emptied cell
      | _ => cell
    cell :: repeated cell cells

/-- The cells of a document of version 1, which is written as `version`, in the current form. -/
def firstCells (version : Json) (fields : Fields) : Except UpgradeFault (List Json) := do
  let stage := .step version 2
  let cells ← listedCells stage false (← parts stage (.object fields) "cells")
  return repeated .null cells

end OldNotebook

end KernelJob
