import KernelJob.Artifact.Name
import KernelJob.Base64
import KernelJob.FileTree
import KernelJob.Json.Misfit

/-! # Artifact stores

A store saves images and pages of a unit's output as files of one directory. Of the types that an
output offers it saves the one that it prefers. Files are named for the unit and counted for each
unit, also when saving fails.
-/

namespace KernelJob

/-- A type of output that is saved as a file. -/
structure ArtifactType where
  /-- The name of the type. -/
  mime : Text
  /-- How the name of the file ends. -/
  suffix : Text
  /-- Whether the data is in base 64. -/
  isBase64 : Bool
deriving DecidableEq, Repr

/-- The types that are saved, in order of preference. -/
def artifactTypes : List ArtifactType :=
  [⟨"image/png", ".png", true⟩, ⟨"image/jpeg", ".jpg", true⟩, ⟨"image/svg+xml", ".svg", false⟩,
    ⟨"text/html", ".html", false⟩]

/-- Why an artifact was not saved. -/
inductive SaveFault
  | file (fault : FileFault)
  | base64 (fault : Base64.Fault)
  | encoding (fault : EncodeFault)
  | misfit (misfit : Misfit)
deriving DecidableEq, Repr

namespace SaveFault

/-- What the message of a failure says. -/
def message : SaveFault → Text
  | .file fault => fault.message
  | .base64 fault => fault.message
  | .encoding fault => fault.message
  | .misfit m => m.message

/-- Whether the output can be shown as text instead: the data or the file system were at fault, not
the kind of the value. -/
def isRecoverable : SaveFault → Bool
  | .misfit _ => false
  | _ => true

end SaveFault

/-- A store of artifacts. -/
structure ArtifactStore where
  /-- The directory of the files. -/
  directory : Path
  /-- How many artifacts each unit has had. -/
  counters : List (Int × Nat) := []
  /-- The paths of the files saved. -/
  saved : List Path := []
deriving Repr

namespace ArtifactStore

/-- A store for a task, below some directory. -/
def new (root : Path) (task : Text) : ArtifactStore := { directory := root.child (fileName task) }

/-- How many artifacts a unit has had. -/
def count (s : ArtifactStore) (unit : Int) : Nat := (s.counters.lookup unit).getD 0

/-- The store with one more artifact counted for a unit. -/
def countUp (s : ArtifactStore) (unit : Int) : ArtifactStore :=
  { s with counters := (unit, s.count unit + 1) :: s.counters.filter (·.1 != unit) }

/-- The name of the file for an artifact of a unit. -/
def artifactName (unit : Int) (index : Nat) (suffix : Text) : Text :=
  "unit-" ++ Text.ofInt unit ++ "-" ++ Text.ofNat index ++ suffix

/-- The content for a file from the data of an artifact. A text that UTF-8 cannot carry shows only
when the file has been opened. -/
def content (type : ArtifactType) : Json → Except SaveFault (Except EncodeFault (List UInt8))
  | .text t =>
    if type.isBase64 then ((Base64.decode t).mapError SaveFault.base64).map Except.ok
    else .ok (Text.utf8 t)
  | v =>
    if type.isBase64 then .error (.misfit (.notDecodable v.kindName))
    else .error (.misfit (.notWritable v.kindName))

/-- Writes a file; a file whose text cannot be encoded is left empty. -/
def writeContent (files : FileTree) (path : Path) :
    Except EncodeFault (List UInt8) → FileTree × Except SaveFault Unit
  | .ok bytes =>
    match files.write path bytes with
    | .ok files => (files, .ok ())
    | .error fault => (files, .error (.file fault))
  | .error fault =>
    match files.write path [] with
    | .ok files => (files, .error (.encoding fault))
    | .error fault => (files, .error (.file fault))

/-- The data of the preferred type among those that an output offers. -/
def preferred (data : Json) : List ArtifactType → Except Misfit (Option (ArtifactType × Json))
  | [] => .ok none
  | type :: types =>
    match data.holds type.mime with
    | .error m => .error m
    | .ok false => preferred data types
    | .ok true => (data.field type.mime).map fun v => some (type, v)

/-- Saves data of some type for a unit. -/
def saveAs (s : ArtifactStore) (files : FileTree) (unit : Int) (type : ArtifactType) (data : Json) :
    ArtifactStore × FileTree × Except SaveFault Path :=
  match data.joined with
  | .error m => (s, files, .error (.misfit m))
  | .ok data =>
    let s := s.countUp unit
    let path := s.directory.child (artifactName unit (s.count unit) type.suffix)
    match files.makeDirectories path.parent with
    | (files, .error fault) => (s, files, .error (.file fault))
    | (files, .ok _) =>
      match content type data with
      | .error fault => (s, files, .error fault)
      | .ok bytes =>
        match writeContent files path bytes with
        | (files, .ok _) => ({ s with saved := s.saved ++ [path] }, files, .ok path)
        | (files, .error fault) => (s, files, .error fault)

/-- Saves the preferred type that the data of an output offers, if it offers any. -/
def save (s : ArtifactStore) (files : FileTree) (unit : Int) (data : Json) :
    ArtifactStore × FileTree × Except SaveFault (Option Path) :=
  match preferred data artifactTypes with
  | .error m => (s, files, .error (.misfit m))
  | .ok none => (s, files, .ok none)
  | .ok (some (type, v)) =>
    match saveAs s files unit type v with
    | (s, files, result) => (s, files, result.map some)

end ArtifactStore

end KernelJob
