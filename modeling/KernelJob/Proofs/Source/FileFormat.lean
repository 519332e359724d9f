import KernelJob.Proofs.Path
import KernelJob.Proofs.Run.Approach

/-! # The format of a file

Without a declared format, that of a file follows from its name. It is taken from the path as it was
given, before that path is seen from the workspace. The file that is read has the same last name, so
the format is its own.

* **`SourceFormat.IsOfFile`** — the format that the table has for what follows the last dot of a
  name.
* **`RunConfig.ReadsOwnFormat`** — a configuration whose format is that of the file that is read.
* **`RunConfig.readsOwnFormat`** — every configuration without a declared format is one, unless its
  path is empty. -/

namespace KernelJob

namespace SourceFormat

/-- What follows the last dot of a name is its extension. -/
theorem extension?_append_dot (stem : Text) {extension : Text} (h : dot ∉ extension) :
    extension? (stem ++ dot :: extension) = some extension := by
  have hpieces : Text.splitOn '.' (stem ++ dot :: extension) =
      Text.splitOn '.' stem ++ [extension] :=
    (Text.splitOn_append_cons dot stem extension).trans
      (congrArg _ (Text.splitOn_of_notMem h))
  obtain ⟨piece, pieces, hstem⟩ := List.exists_cons_of_ne_nil (Text.splitOn_ne_nil '.' stem)
  rw [extension?, hpieces, hstem]
  cases pieces with
  | nil => rfl
  | cons next pieces =>
    have hlast : (next :: pieces ++ [extension]).getLast (by simp) = extension :=
      List.getLast_concat
    exact congrArg some hlast

/-- A name without a dot has no extension. -/
theorem extension?_of_notMem {name : Text} (h : dot ∉ name) : extension? name = none := by
  have hpieces : Text.splitOn '.' name = [name] := Text.splitOn_of_notMem h
  rw [extension?, hpieces]

/-- **The format of a file of some name**, by the table of extensions; the case of letters counts.
-/
inductive IsOfFile : Text → SourceFormat → Prop
  /-- What follows the last dot is in the table. -/
  | listed (stem : Text) {extension : Text} {format : SourceFormat} (last : dot ∉ extension)
      (entry : (extension, format) ∈ extensions) : IsOfFile (stem ++ dot :: extension) format
  /-- It is not. -/
  | unlisted (stem : Text) {extension : Text} (last : dot ∉ extension)
      (noEntry : ∀ format, (extension, format) ∉ extensions) :
      IsOfFile (stem ++ dot :: extension) .plainFile
  /-- There is no dot. -/
  | noDot {name : Text} (notMem : dot ∉ name) : IsOfFile name .plainFile

/-- An extension has at most one format in the table. -/
theorem lookup_extensions_eq_some_iff {extension : Text} {format : SourceFormat} :
    extensions.lookup extension = some format ↔ (extension, format) ∈ extensions := by
  constructor
  · intro h
    obtain ⟨before, after, hsplit, -⟩ := List.lookup_eq_some_iff.mp h
    rw [hsplit]
    exact List.mem_append_right _ List.mem_cons_self
  · intro h
    have hall : ∀ entry ∈ extensions, extensions.lookup entry.1 = some entry.2 := by decide
    exact hall _ h

/-- **A name has the format that the table has for it.** -/
theorem isOfFile_ofFileName (name : Text) : IsOfFile name (ofFileName name) := by
  by_cases hdot : dot ∈ name
  · obtain ⟨stem, extension, rfl, hlast⟩ := Path.exists_eq_append_cons_notMem hdot
    rw [ofFileName, extension?_append_dot stem hlast, Option.map_some, Option.getD_some,
      ofExtension]
    cases hentry : extensions.lookup extension with
    | some format => exact .listed stem hlast (lookup_extensions_eq_some_iff.mp hentry)
    | none =>
      refine .unlisted stem hlast fun format hmem => ?_
      rw [lookup_extensions_eq_some_iff.mpr hmem] at hentry
      cases hentry
  · rw [ofFileName, extension?_of_notMem hdot]
    exact .noDot hdot

end SourceFormat

namespace RunConfig

variable {c : RunConfig}

/-- **A configuration whose format is that of the file that is read.** -/
structure ReadsOwnFormat (c : RunConfig) : Prop where
  /-- It is the format for the path of the file, as it is seen from the workspace. -/
  ofPath : c.effectiveFormat = SourceFormat.ofPath c.sourcePath
  /-- It is what the table of extensions says of the last name of that path. -/
  isOfFile : SourceFormat.IsOfFile c.sourcePath.name c.effectiveFormat
  /-- This name is the last name of the path that was given. -/
  name : ∀ name, name ≠ [] → (c.sourcePath.name = name ↔ Path.IsLastName c.source name)
  /-- A run reads this file, and as a document of this format. -/
  loads : ∀ files document, Run.Loads files c document ↔ ∃ bytes,
    files.read c.sourcePath = .ok bytes ∧
      Document.read (SourceFormat.ofPath c.sourcePath) bytes = .ok document

/-- **The format is that of the file that is read**, whatever the path and the workspace are, unless
the path is empty. -/
theorem readsOwnFormat (hmode : c.mode = .file) (hformat : c.format = none)
    (hsource : Path.ofText c.source ≠ ⟨.relative, []⟩) : c.ReadsOwnFormat := by
  have hname : c.sourcePath.name = (Path.ofText c.source).name :=
    Path.name_under hsource c.workspace
  have hofPath : c.effectiveFormat = SourceFormat.ofPath c.sourcePath := by
    rw [effectiveFormat, hformat, hmode, SourceFormat.ofPath, SourceFormat.ofPath, hname]
  refine ⟨hofPath, ?_, fun name hne => ?_, fun files document => ?_⟩
  · rw [hofPath]
    exact SourceFormat.isOfFile_ofFileName _
  · rw [hname]
    exact Path.name_ofText_eq_iff hne
  · rw [Run.Loads, Run.sourceBytes, hmode, hofPath]
    cases files.read c.sourcePath <;> simp [Except.toOption]

/-- A hidden notebook in a directory beside the workspace. -/
def hiddenNotebook : RunConfig where
  kernel := "python3"
  mode := .file
  source := "../a.b//.x.ipynb/./"
  workspace := .ofText "//ws"

/-- It is read as a notebook, although slashes and a single dot follow its name. -/
theorem readsOwnFormat_hiddenNotebook :
    ReadsOwnFormat hiddenNotebook ∧ hiddenNotebook.effectiveFormat = .notebook ∧
      hiddenNotebook.sourcePath.name = ".x.ipynb" :=
  ⟨readsOwnFormat rfl rfl (by decide), by decide, by decide⟩

end RunConfig

end KernelJob
