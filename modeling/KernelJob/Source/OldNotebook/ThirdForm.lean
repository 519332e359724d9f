import KernelJob.Source.OldNotebook.Form

/-! # The form of version 3

Documents of version 3 keep their cells in worksheets. Beside text and code there are headings, and
what was displayed stands under short names of its kind or under the names of media types.
-/

namespace KernelJob

namespace OldNotebook.ThirdForm

/-! ## Outputs -/

/-- The letters and digits of ASCII. -/
def isPlain (c : CodePoint) : Bool := c.isLetter || c.isDigit

/-- Whether a key is the name of a media type: two names with a stroke between them. -/
def isMediaType (key : Text) : Bool :=
  let key := withoutNewline key
  let type := key.takeWhile (·.val != 47)
  let subtype := (key.dropWhile (·.val != 47)).drop 1
  type != [] && type.all isPlain && subtype != [] &&
    subtype.all fun c => isPlain c || c.val == 43 || c.val == 45 || c.val == 46

/-- What was displayed, under the short names of its kinds. -/
def contents : List (Text × Shape) :=
  let kinds : List Text :=
    ["text", "latex", "png", "jpeg", "svg", "html", "javascript", "json", "pdf"]
  kinds.map fun kind => (kind, textOrLines)

/-- An output of contents, under short names or under media types. -/
def shown (type : Text) (required : List Text) (known : List (Text × Shape)) : Shape :=
  .object ("output_type" :: required)
    (("output_type", .word [type]) :: ("metadata", mapping) :: (known ++ contents))
    fun key => if isMediaType key then textOrLines else .anything

/-- An output of a cell of code. -/
def output : Shape := .oneOf [
  shown "pyout" ["prompt_number"] [("prompt_number", .whole 0)],
  shown "display_data" [] [],
  .closed ["output_type", "stream", "text"]
    [("output_type", .word ["stream"]), ("stream", .text), ("text", textOrLines)],
  .closed ["output_type", "ename", "evalue", "traceback"]
    [("output_type", .word ["pyerr"]), ("metadata", mapping), ("ename", .text), ("evalue", .text),
      ("traceback", .listOf .text)]]

/-! ## Cells -/

/-- A cell of any kind. -/
def cell : Shape := .oneOf [
  .closed ["cell_type", "source"]
    [("cell_type", .word ["raw"]), ("source", textOrLines),
      ("metadata", .extensible [] [("format", .text), ("name", cellName), ("tags", cellTags)])],
  .closed ["cell_type", "source"]
    [("cell_type", .word ["markdown", "html"]), ("source", textOrLines),
      ("metadata", .extensible [] [("name", cellName), ("tags", cellTags)])],
  .closed ["cell_type", "source", "level"]
    [("cell_type", .word ["heading"]), ("source", textOrLines), ("metadata", mapping),
      ("level", .whole 1)],
  .closed ["cell_type", "language", "outputs"]
    [("cell_type", .word ["code"]), ("language", .text), ("collapsed", .flag),
      ("metadata", mapping), ("input", textOrLines), ("outputs", .listOf output),
      ("prompt_number", runCount)]]

/-! ## Documents -/

/-- The form of a worksheet. -/
def sheet (v : Json) : Formed := do
  let fields := v.fields?.getD []
  formedIf (fields.all fun f => f.1 == "cells" || f.1 == "metadata")
  match fields.get? "cells" with
  | some (.list cells) => formedCells cell cells
  | _ => throw .elsewhere
  formedIf (((fields.get? "metadata").map mapping).getD true)

/-- The metadata of a document. -/
def documentMetadata : Shape := .extensible []
  [("kernel_info", .extensible ["name", "language"]
      [("name", .text), ("language", .text), ("codemirror_config", mapping)]),
    ("signature", .text)]

/-- The form of a document. What stands beside the worksheets comes before them. -/
def document (fields : Fields) : Formed := do
  formedIf (Shape.extensible ["metadata", "nbformat_minor", "worksheets"]
    [("metadata", documentMetadata), ("nbformat_minor", .whole 0), ("orig_nbformat", .whole 1)]
    (.object fields))
  match fields.get? "worksheets" with
  | some (.list sheets) => sheets.forM sheet
  | _ => throw .elsewhere

end OldNotebook.ThirdForm

end KernelJob
