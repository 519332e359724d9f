import KernelJob.Json.Misfit
import KernelJob.Json.Shape
import KernelJob.Source.OldNotebook.Fault

/-! # Forms of notebooks

Each version says which form its documents have. A document without the form of its version is
brought to the current form all the same, unless the first thing that is wrong with it is a cell
whose type is no text: `OldNotebook.checkForm` says so. The shapes here are those that all versions
share.
-/

namespace KernelJob

namespace OldNotebook

/-- What is the first thing in a document that does not have the form of its version. -/
inductive Misform
  /-- A cell, which is of this type. -/
  | cell (type : Json)
  | elsewhere

/-- The form of a document or a part of it: nothing is wrong, or a first thing is. -/
abbrev Formed := Except Misform Unit

/-- The form of a part with no cells in it. -/
def formedIf (ok : Bool) : Formed := if ok then .ok () else .error .elsewhere

/-- The form of a cell that has to have some shape. -/
def formedCell (shape : Shape) (cell : Json) : Formed :=
  match cell.fields?.bind (Fields.get? "cell_type") with
  | some type => if shape cell then .ok () else .error (.cell type)
  | none => .error .elsewhere

/-- The form of cells that have to have some shape. -/
def formedCells (shape : Shape) (cells : List Json) : Formed := cells.forM (formedCell shape)

/-- Looks at the form of a document, of which only the type of a cell matters. -/
def checkForm : Formed → Except UpgradeFault Unit
  | .error (.cell (.text _)) => .ok ()
  | .error (.cell type) => .error (.unfit (.cellType type))
  | _ => .ok ()

/-! ## Common shapes -/

/-- An object. -/
def mapping : Shape := .extensible [] []

/-- A text, or its lines. -/
def textOrLines : Shape := .oneOf [.text, .listOf .text]

/-- A number of runs of a cell, if it was run. -/
def runCount : Shape := .oneOf [.whole 0, .null]

/-- A text without the newline at its end, if there is one. -/
def withoutNewline (t : Text) : Text :=
  if t.endsWith "\n" then t.dropLast else t

/-- The name of a cell: a text of one line, which is not empty. -/
def cellName : Shape :=
  .textWith fun t => withoutNewline t != [] && (withoutNewline t).all (·.val != 10)

/-- The tags of a cell: different texts without commas, none of them empty. -/
def cellTags : Shape
  | .list vs =>
    match Json.texts? vs with
    | some tags =>
      tags.all (fun t => t != [] && t.all (·.val != 44)) && tags.eraseDups.length == tags.length
    | none => false
  | _ => false

end OldNotebook

end KernelJob
