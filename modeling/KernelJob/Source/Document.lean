import KernelJob.Source.Format
import KernelJob.Source.Notebook
import KernelJob.Source.Note
import KernelJob.Source.OldNotebook
import KernelJob.Text.Utf8

/-! # Documents

The bytes of a source are decoded and read in the format that is declared for it; a `Document` is
what they hold, and `Document.units` are its code units.
-/

namespace KernelJob

/-- A source that has been read. -/
inductive Document
  /-- A piece of code as it stands. -/
  | code (source : Text)
  | notebook (notebook : Notebook)
  | note (note : Note)
deriving DecidableEq, Repr

/-- Bytes that are not in the declared format. -/
inductive FormatFault
  | notUtf8 (format : SourceFormat) (fault : DecodeFault)
  | notebookNotJson (fault : Json.Fault)
  | noteNotJson (fault : Json.Fault)
  | version (fault : VersionFault)

/-- What is wrong with the format, in words. -/
def FormatFault.message : FormatFault → Text
  | .notUtf8 format fault => "Source is not valid UTF-8 (" ++ format.name ++ "): " ++ fault.message
  | .notebookNotJson fault => "Notebook is not valid JSON: " ++ fault.message
  | .noteNotJson fault => "Zeppelin note is not valid JSON: " ++ fault.message
  | .version fault => fault.message

/-- A required part that a document lacks. -/
inductive StructureFault
  | notebook (fault : NotebookFault)
  | note (fault : NoteFault)
deriving DecidableEq, Repr

/-- What is missing, in words. -/
def StructureFault.message : StructureFault → Text
  | .notebook fault => fault.message
  | .note fault => fault.message

/-- Why bytes are no document. -/
inductive DocumentFault
  /-- They are not in the declared format. -/
  | format (fault : FormatFault)
  /-- They lack a required part. -/
  | structural (fault : StructureFault)
  /-- They are a notebook of an older version that cannot be brought to the current form. -/
  | upgrade (breakdown : Breakdown)
  /-- A whole number in them has more digits than are read. -/
  | tooManyDigits (count : Nat)
  /-- A value in them was used as what it is not. -/
  | misfit (misfit : Misfit)

/-- What the message of a failure says. -/
def DocumentFault.message : DocumentFault → Text
  | .format fault => fault.message
  | .structural fault => fault.message
  | .upgrade breakdown => breakdown.message
  | .tooManyDigits n => (Json.Fault.tooManyDigits n).message
  | .misfit m => m.message

namespace Document

/-- The code units of a document. -/
def units : Document → List CodeUnit
  | .code source => [⟨0, source, false⟩]
  | .notebook nb => nb.units
  | .note n => n.units

/-- The failure that a JSON failure means for a document; `wrap` makes it one of the format. -/
def jsonFault (wrap : Json.Fault → FormatFault) : Json.Fault → DocumentFault
  | .tooManyDigits n => .tooManyDigits n
  | fault => .format (wrap fault)

/-- The failure of a document whose notebook cannot be brought to the current form. -/
def upgradeFault : UpgradeFault → DocumentFault
  | .version fault => .format (.version fault)
  | .breakdown b => .upgrade b

/-- The failure of a document with a part that was not read; `wrap` makes what the part lacks a
fault of the structure. -/
def unreadFault {α : Type} (wrap : α → StructureFault) : Unread α → DocumentFault
  | .lacking fault => .structural (wrap fault)
  | .misfit m => .misfit m

/-- The notebook that a text holds. -/
def readNotebook (t : Text) : Except DocumentFault Notebook :=
  match Json.read t with
  | .error fault => .error (jsonFault .notebookNotJson fault)
  | .ok (.object fields) =>
    match Notebook.cellsOf fields with
    | .error fault => .error (upgradeFault fault)
    | .ok cells => (Notebook.ofCells cells).mapError (unreadFault .notebook)
  | .ok _ => .error (.structural (.notebook .notAnObject))

/-- The note that a text holds. -/
def readNote (t : Text) : Except DocumentFault Note :=
  match Json.read t with
  | .error fault => .error (jsonFault .noteNotJson fault)
  | .ok (.object fields) => (Note.ofFields fields).mapError (unreadFault .note)
  | .ok _ => .error (.structural (.note .notAnObject))

/-- The document that a text holds in some format. -/
def ofText : SourceFormat → Text → Except DocumentFault Document
  | .text, t => .ok (.code t)
  | .plainFile, t => .ok (.code t)
  | .notebook, t => (readNotebook t).map .notebook
  | .note, t => (readNote t).map .note

/-- The document that bytes hold in some format. -/
def read (format : SourceFormat) (bytes : List UInt8) : Except DocumentFault Document :=
  match Text.ofUtf8 bytes with
  | .error fault => .error (.format (.notUtf8 format fault))
  | .ok t => ofText format t

/-- The code units that bytes hold in some format. -/
def parse (format : SourceFormat) (bytes : List UInt8) : Except DocumentFault (List CodeUnit) :=
  (read format bytes).map units

end Document

end KernelJob
