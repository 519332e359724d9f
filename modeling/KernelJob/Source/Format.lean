import KernelJob.Path
import KernelJob.Text.Case
import KernelJob.Text.Quoted

/-! # Source formats

The formats in which sources come, and the three ways to name one: by the extension of a file, by
the path of a file, and by a name or an alias.
-/

namespace KernelJob

/-- The format of a source. -/
inductive SourceFormat
  /-- Inline code. -/
  | text
  /-- A notebook of cells. -/
  | notebook
  /-- A note of paragraphs. -/
  | note
  /-- A file of code. -/
  | plainFile
deriving DecidableEq, Repr

namespace SourceFormat

/-- The name of a format. -/
def name : SourceFormat → Text
  | .text => "text"
  | .notebook => "ipynb"
  | .note => "zeppelin-json"
  | .plainFile => "plain-file"

/-- The formats by name. -/
def names : List (Text × SourceFormat) :=
  [("text", .text), ("ipynb", .notebook), ("zeppelin-json", .note), ("plain-file", .plainFile)]

/-- Further names of formats. -/
def aliases : List (Text × SourceFormat) :=
  [("zeppelin", .note), ("json", .note), ("notebook", .notebook), ("plain", .plainFile),
    ("file", .plainFile), ("txt", .plainFile)]

/-- The formats by the extension of a file; the case of letters counts. -/
def extensions : List (Text × SourceFormat) :=
  [("ipynb", .notebook), ("json", .note), ("txt", .plainFile)]

/-- The format with exactly this name. -/
def ofName? (t : Text) : Option SourceFormat := names.lookup t

/-- The format for an extension; a file of any other extension is a file of code. -/
def ofExtension (extension : Text) : SourceFormat := (extensions.lookup extension).getD .plainFile

/-- What follows the last dot of a name, if it has one. -/
def extension? (name : Text) : Option Text :=
  match Text.splitOn '.' name with
  | _ :: piece :: pieces => some ((piece :: pieces).getLast (by simp))
  | _ => none

/-- The format for a file of some name. -/
def ofFileName (name : Text) : SourceFormat := ((extension? name).map ofExtension).getD .plainFile

/-- The format for the file at a path. -/
def ofPath (p : Path) : SourceFormat := ofFileName p.name

/-- The format that a name or an alias stands for, up to surrounding blanks and letter case. -/
def parse? (t : Text) : Option SourceFormat :=
  match ofName? t.normalizedName with
  | some f => some f
  | none => aliases.lookup t.normalizedName

@[simp] theorem ofName?_name (f : SourceFormat) : ofName? f.name = some f := by
  cases f <;> decide

end SourceFormat

end KernelJob
