import KernelJob.Source.OldNotebook.Form

/-! # The current form

Documents of the current version list their cells at the top. Every cell has metadata and a source,
and what was displayed stands under the names of media types. New cells are given identifiers of
their own, so those are left out here.
-/

namespace KernelJob

namespace OldNotebook.CurrentForm

/-! ## Outputs -/

/-- Whether a key is the name of a media type whose contents are JSON. -/
def isJsonType (key : Text) : Bool :=
  let start : Text := "application/"
  let subtype : Text := (withoutNewline key).drop start.length
  start.isPrefixOf key &&
    (subtype == "json" || (subtype.endsWith "+json" && subtype.all (·.val != 10)))

/-- Contents under the names of their media types. -/
def mediaBundle : Shape :=
  .object [] [] fun key => if isJsonType key then .anything else textOrLines

/-- An output of a cell of code. -/
def output : Shape := .oneOf [
  .closed ["output_type", "data", "metadata", "execution_count"]
    [("output_type", .word ["execute_result"]), ("data", mediaBundle), ("metadata", mapping),
      ("execution_count", runCount)],
  .closed ["output_type", "data", "metadata"]
    [("output_type", .word ["display_data"]), ("data", mediaBundle), ("metadata", mapping)],
  .closed ["output_type", "name", "text"]
    [("output_type", .word ["stream"]), ("name", .text), ("text", textOrLines)],
  .closed ["output_type", "ename", "evalue", "traceback"]
    [("output_type", .word ["error"]), ("ename", .text), ("evalue", .text),
      ("traceback", .listOf .text)]]

/-! ## Cells -/

/-- The metadata of a cell, with what is known of a cell of its kind. -/
def cellMetadata (known : List (Text × Shape)) : Shape :=
  .extensible [] (("name", cellName) :: ("tags", cellTags) :: ("jupyter", mapping) :: known)

/-- Whether the output of a cell is scrolled. -/
def scrolling : Shape := .oneOf [.flag, .word ["auto"]]

/-- A cell of any kind. -/
def cell : Shape := .oneOf [
  .closed ["cell_type", "metadata", "source"]
    [("cell_type", .word ["raw"]), ("source", textOrLines),
      ("metadata", cellMetadata [("format", .text)]),
      ("attachments", .object [] [] fun _ => mediaBundle)],
  .closed ["cell_type", "metadata", "source"]
    [("cell_type", .word ["markdown"]), ("source", textOrLines),
      ("metadata", cellMetadata []),
      ("attachments", .object [] [] fun _ => mediaBundle)],
  .closed ["cell_type", "metadata", "source", "outputs", "execution_count"]
    [("cell_type", .word ["code"]), ("source", textOrLines),
      ("metadata", cellMetadata [("collapsed", .flag), ("scrolled", scrolling),
        ("execution", .object [] [] fun _ => .text)]),
      ("outputs", .listOf output), ("execution_count", runCount)]]

/-! ## Documents -/

/-- The metadata of a document. -/
def documentMetadata : Shape := .extensible []
  [("kernelspec", .extensible ["name", "display_name"] [("name", .text), ("display_name", .text)]),
    ("language_info", .extensible ["name"]
      [("name", .text), ("codemirror_mode", .oneOf [.text, mapping]), ("file_extension", .text),
        ("mimetype", .text), ("pygments_lexer", .text)]),
    ("orig_nbformat", .whole 1), ("title", .text), ("authors", .listOf .anything)]

/-- The form of a document with some cells; `fields` are what stands beside them. -/
def document (fields : Fields) (cells : List Json) : Formed := do
  formedIf (Shape.closed ["metadata"]
    [("metadata", documentMetadata), ("nbformat", .anything), ("nbformat_minor", .anything)]
    (.object fields))
  formedCells cell cells

end OldNotebook.CurrentForm

end KernelJob
