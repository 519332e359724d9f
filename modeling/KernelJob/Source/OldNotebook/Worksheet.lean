import KernelJob.Source.OldNotebook.CurrentForm
import KernelJob.Source.OldNotebook.Output
import KernelJob.Source.OldNotebook.ThirdForm
import KernelJob.Text.Lines

/-! # Worksheets

Documents of versions 2 and 3 keep their cells in worksheets, and the source of a cell of code under
`input`. `OldNotebook.secondCells` and `OldNotebook.thirdCells` give the cells of such documents in
the current form. A document of version 2 has the form of version 3 once it was read.
-/

namespace KernelJob

namespace OldNotebook

/-- A cell of a worksheet. -/
structure SheetCell where
  fields : Fields
  /-- The outputs of a cell of code. -/
  outputs : Option (List Fields)

/-! ## Reading -/

/-- A cell with each of its lists of lines made one text. -/
def readCell (join : Joining) (cell : Json) : Except UpgradeFault SheetCell := do
  let type ← part .reading cell "cell_type"
  let fields := cell.fields?.getD []
  if type.isText "code" then
    let fields ← joinUnder join "input" fields
    let outputs ← (← parts .reading cell "outputs").mapM (readOutput join)
    return ⟨fields, some outputs⟩
  else
    return ⟨← joinUnder join "rendered" (← joinUnder join "source" fields), none⟩

/-- The cells of all worksheets one after the other. -/
def readCells (join : Joining) (fields : Fields) : Except UpgradeFault (List SheetCell) := do
  let sheets ← (← parts .reading (.object fields) "worksheets").mapM fun sheet => do
    (← parts .reading sheet "cells").mapM (readCell join)
  return sheets.flatten

/-- Looks at the images of a cell. -/
def checkImages (cell : SheetCell) : Except UpgradeFault Unit :=
  (cell.outputs.getD []).forM fun output => imageKeys.forM (checkImage output)

/-! ## Cells -/

/-- The metadata of a cell of code, where the mark of a folded one goes. -/
def codeMetadata (fields : Fields) : Except UpgradeFault Json :=
  let metadata := (fields.get? "metadata").getD (.object [])
  match fields.get? "collapsed" with
  | none => .ok metadata
  | some mark =>
    match metadata with
    | .object fields => .ok (.object (Fields.set "collapsed" mark fields))
    | .list _ => .error (.ofMisfit .listField)
    | v => .error (.ofMisfit (.notAssignable v.kindName))

/-- The keys of a cell of code that have no place or another one in the current form. -/
def formerKeys : List Text := ["id", "language", "collapsed", "input", "prompt_number"]

/-- A cell of code in the current form. -/
def upgradeCode (fields : Fields) (outputs : List Fields) : Except UpgradeFault Json := do
  let metadata ← codeMetadata fields
  let outputs ← outputs.mapM upgradeOutput
  return .object <| (fields.without formerKeys)
    |>.set "source" ((fields.get? "input").getD (.text []))
    |>.set "metadata" metadata
    |>.set "outputs" (.list outputs)
    |>.set "execution_count" ((fields.get? "prompt_number").getD .null)

/-- Looks at the level of a heading, which that many signs stand for. -/
def checkLevel : Json → Except UpgradeFault Unit
  | .bool _ => .ok ()
  | .int n =>
    if n < -0x8000000000000000 ∨ 0x8000000000000000 ≤ n then .error (.breakdown .headingLevel)
    else if 0x1000000000000 ≤ n then .error (.breakdown .headingSize)
    else .ok ()
  | v => .error (.ofMisfit (.notCountable (kindName v)))

/-- The line of a heading, without the signs of its level. -/
def headingLine (fields : Fields) : Except UpgradeFault Text := do
  checkLevel ((fields.get? "level").getD (.int 1))
  match (fields.get? "source").getD (.text []) with
  | .text t => return Text.join " " (Text.lines t)
  | v => throw (noOperation lastStep v "splitlines")

/-- A cell other than one of code in the current form, where headings are among the texts. -/
def upgradeText (fields : Fields) : Except UpgradeFault Json := do
  let metadata := (fields.get? "metadata").getD (.object [])
  let type := (fields.get? "cell_type").getD .null
  let fields := (fields.erase "id").set "metadata" metadata
  if type.isText "heading" then
    let line ← headingLine fields
    return .object (((fields.erase "level").set "cell_type" (.text "markdown")).set "source"
      (.text line))
  else if type.isText "html" then return .object (fields.set "cell_type" (.text "markdown"))
  else return .object fields

/-- A cell in the current form. -/
def upgradeCell (cell : SheetCell) : Except UpgradeFault Json :=
  match cell.outputs with
  | some outputs => upgradeCode cell.fields outputs
  | none => upgradeText cell.fields

/-! ## Documents -/

/-- Looks at the minor version of a document of version 3, of which only the first is known. -/
def checkMinorVersion (fields : Fields) : Except UpgradeFault Unit :=
  match (fields.get? "nbformat_minor").getD (.int 0) with
  | .int n => if 0 < n then .error (.unfit .minorVersion) else .ok ()
  | .bool b => if b then .error (.unfit .minorVersion) else .ok ()
  | _ => .error (.breakdown .minorVersion)

/-- Looks at the form of a document of version 3; a minor version below the first has none. -/
def checkThirdForm (fields : Fields) : Except UpgradeFault Unit :=
  match fields.get? "nbformat_minor" with
  | some (.int n) => if n < 0 then .ok () else checkForm (ThirdForm.document fields)
  | _ => checkForm (ThirdForm.document fields)

/-- The version that a document of version 3 comes from. -/
def originOf (fields : Fields) : Json :=
  match fields.get? "orig_nbformat" with
  | some v => if v.isPresent then v else .int 3
  | none => .int 3

/-- The keys of a document of version 3 that have no place or another one in the current form. -/
def formerDocumentKeys : List Text :=
  ["worksheets", "cells", "orig_nbformat", "orig_nbformat_minor"]

/-- What stands beside the cells of a document in the current form. -/
def upgradeBeside (fields metadata : Fields) : Fields :=
  (fields.without formerDocumentKeys).set "metadata"
    (.object ((metadata.set "orig_nbformat" (originOf fields)).without ["name", "signature"]))

/-- The cells of a document of version 3 in the current form. -/
def upgradeCells (fields : Fields) (cells : List SheetCell) : Except UpgradeFault (List Json) := do
  checkMinorVersion fields
  checkThirdForm fields
  match ← part lastStep (.object fields) "metadata" with
  | .object metadata =>
    let cells ← cells.mapM upgradeCell
    checkForm (CurrentForm.document (upgradeBeside fields metadata) cells)
    return cells
  | v => throw (.incomplete lastStep (.part v.kindName "orig_nbformat"))

/-- The cells of a document of version 2 in the current form. -/
def secondCells (fields : Fields) : Except UpgradeFault (List Json) := do
  let cells ← readCells joinApart fields
  cells.forM checkImages
  upgradeCells ((fields.set "nbformat_minor" (.int 0)).set "orig_nbformat" (.int 2)) cells

/-- The cells of a document of version 3 in the current form. -/
def thirdCells (fields : Fields) : Except UpgradeFault (List Json) := do
  upgradeCells fields (← readCells joinLines fields)

end OldNotebook

end KernelJob
