import KernelJob.Proofs.Artifact.Apart
import KernelJob.Proofs.Artifact.Name
import KernelJob.Proofs.Artifact.Opened

/-! # What a failed save leaves

A save that fails is to leave no trace: below the root of the store the same files hold the same
bytes, and nothing counts as saved. Directories may have been made, and the output is counted. This
holds of every failure but one. A text that cannot be encoded shows only when its file has been
opened, and by then the file is there and empty.

* **`Archive.FailsCleanly`** — a call that leaves no trace if it fails.
* **`Archive.LeavesEmpty`** — a call that leaves an empty file behind.
* **`Archive.leadsTo_nextPath`** — the file of an artifact stands two steps below the root.
* **`Archive.failsCleanly_iff`** — only a call that leaves an empty file behind leaves a trace. -/

namespace KernelJob

open ArtifactStore

/-- **A place below a path**, or the place of the path itself. -/
def FileTree.LiesBelow (t : FileTree) (p : Path) (place : Place) : Prop :=
  ∃ base, t.LeadsTo p base ∧ base <+: place

namespace Archive

variable {root : Path} {task : Text} {a : Archive} {c : SaveCall}

/-! ## Traces -/

/-- **A call that leaves no trace below a root**: the same files are there with the same content,
and the same paths count as saved. -/
structure LeavesNoTrace (root : Path) (a : Archive) (c : SaveCall) : Prop where
  files : ∀ place, (a.save c).files.LiesBelow root place →
    FileTree.SameFileAt a.files (a.save c).files place
  saved : (a.save c).store.saved = a.store.saved

/-- **A call that leaves no trace if it fails.** -/
def FailsCleanly (root : Path) (a : Archive) (c : SaveCall) : Prop :=
  ∀ fault, a.result c = .error fault → a.LeavesNoTrace root c

/-- **A call that leaves an empty file behind**: a text with a surrogate is offered under a type
whose data is written as it stands, the file for it can be opened, and it has not been there and
empty before. -/
def LeavesEmpty (a : Archive) (c : SaveCall) : Prop :=
  ∃ (type : ArtifactType) (t : Text) (made : FileTree) (place : Place),
    offer? c.data = some (type, .text t) ∧ type.isBase64 = false ∧ t.hasSurrogate = true ∧
      a.files.OpensAt (a.nextPath c.unit type) made place ∧
        a.files.find? place ≠ some (.file [])

/-! ## Where the files are -/

/-- **The file of an artifact stands two steps below the root**: in the directory for the task,
under the name of the artifact. -/
theorem leadsTo_nextPath (hstore : a.store.directory = root.child (fileName task)) {unit : Int}
    {type : ArtifactType} (htype : type ∈ artifactTypes) {t : FileTree} {place : Place}
    (h : t.LeadsTo (a.nextPath unit type) place) :
    ∃ base, t.LeadsTo root base ∧
      place = base ++ [fileName task, artifactName unit (a.store.count unit + 1) type.suffix] := by
  have hname := isPlain_artifactName unit (a.store.count unit + 1) htype
  rw [nextPath, hstore] at h
  obtain ⟨directory, hdirectory, rfl⟩ := FileTree.leadsTo_child hname h
  obtain ⟨base, hbase, rfl⟩ := FileTree.leadsTo_child (tame_fileName task).isPlain hdirectory
  refine ⟨base, hbase, ?_⟩
  rw [List.append_assoc, List.singleton_append]

/-! ## Calls that fail -/

/-- A call that fails adds no path to those that count as saved. -/
theorem saved_of_error {fault : SaveFault} (h : a.result c = .error fault) :
    (a.save c).store.saved = a.store.saved := by
  rw [saved_save, h]
  exact List.append_nil _

/-- **A call that leaves an empty file behind fails**, and the file stands below the root. -/
theorem LeavesEmpty.fails (hstore : a.store.directory = root.child (fileName task))
    (h : a.LeavesEmpty c) :
    ∃ fault place, a.result c = .error fault ∧ (a.save c).files.LiesBelow root place ∧
      ¬ FileTree.SameFileAt a.files (a.save c).files place := by
  obtain ⟨type, t, made, place, hoffer, hbase, ht, hopens, hempty⟩ := h
  obtain ⟨e, hcontent⟩ := content_eq_encodeFault_iff.mpr ⟨hbase, t, rfl, ht⟩
  obtain ⟨hresult, hfiles, -⟩ := save_of_offer a hoffer
  rw [writeAt_of_opensAt hopens, hcontent] at hresult hfiles
  refine ⟨.encoding e, place, hresult, ?_, ?_⟩
  · have hplace : made.LeadsTo (a.nextPath c.unit type) place :=
      FileTree.leadsTo_of_locate hopens.locate
    obtain ⟨base, hroot, rfl⟩ := leadsTo_nextPath hstore (mem_of_offer? hoffer) hplace
    rw [hfiles]
    exact ⟨base, hopens.leadsTo_put [] hroot, List.prefix_append _ _⟩
  · rw [hfiles, hopens.sameFileAt_put_self]
    exact hempty

/-- **Any other call that fails leaves every file as it was.** -/
theorem sameFileAt_of_error {fault : SaveFault} (hresult : a.result c = .error fault)
    (h : ¬ a.LeavesEmpty c) (place : Place) :
    FileTree.SameFileAt a.files (a.save c).files place := by
  cases hoffer : offer? c.data with
  | none =>
    -- nothing was attempted
    rw [(save_of_no_offer a hoffer).1]
    exact FileTree.SameFileAt.refl a.files place
  | some offer =>
    obtain ⟨type, payload⟩ := offer
    obtain ⟨hgiven, hfiles, -⟩ := save_of_offer a hoffer
    rw [hresult] at hgiven
    rw [hfiles]
    by_cases hopens : a.files.Opens (a.nextPath c.unit type)
    · obtain ⟨made, goal, hopens⟩ := hopens
      rw [writeAt_of_opensAt hopens] at hgiven ⊢
      cases hcontent : content type payload with
      | error refused => exact hopens.addsDirectories.sameFileAt place
      | ok encoded =>
        rw [hcontent] at hgiven
        cases encoded with
        | ok bytes => exact nomatch hgiven
        | error e =>
          -- the file was opened, and must have been empty before
          obtain ⟨hbase, t, rfl, ht⟩ := content_eq_encodeFault_iff.mp ⟨e, hcontent⟩
          by_cases hempty : a.files.find? goal = some (.file [])
          · by_cases hgoal : place = goal
            · rw [hgoal]
              exact (hopens.sameFileAt_put_self []).mpr hempty
            · exact hopens.sameFileAt_put [] hgoal
          · exact absurd ⟨type, t, made, goal, hoffer, hbase, ht, hopens, hempty⟩ h
    · obtain ⟨made, refused, hwritten, hadds⟩ := writeAt_of_not_opens hopens type payload
      rw [hwritten]
      exact hadds.sameFileAt place

/-- **A failed save leaves no trace**, whatever the store, the files and the data are, if and only
if the call does not leave an empty file behind. -/
theorem failsCleanly_iff (hstore : a.store.directory = root.child (fileName task)) :
    a.FailsCleanly root c ↔ ¬ a.LeavesEmpty c := by
  constructor
  · intro hclean hempty
    obtain ⟨fault, place, hresult, hbelow, hchanged⟩ := hempty.fails hstore
    exact hchanged ((hclean fault hresult).files place hbelow)
  · intro hempty fault hresult
    refine ⟨fun place _ => ?_, saved_of_error hresult⟩
    exact sameFileAt_of_error hresult hempty place

/-! ## Two drawings -/

/-- A store with nothing saved, among no files. -/
def freshArchive : Archive := ⟨.new (.ofText "/out") "t", {}⟩

/-- A picture that is no base 64. -/
def brokenPicture : SaveCall := ⟨1, .object [("image/png", .text "A")]⟩

/-- A drawing with a lone surrogate in it. -/
def brokenDrawing : SaveCall := ⟨1, .object [("image/svg+xml", .text [⟨0xD800, by decide⟩])]⟩

/-- A picture that is no base 64 is not saved and leaves no trace. -/
theorem failsCleanly_brokenPicture :
    freshArchive.store.directory = (Path.ofText "/out").child (fileName "t") ∧
      freshArchive.result brokenPicture = .error (.base64 (.loneLetter 1)) ∧
        freshArchive.FailsCleanly (.ofText "/out") brokenPicture := by
  have hstore : freshArchive.store.directory = (Path.ofText "/out").child (fileName "t") := rfl
  refine ⟨hstore, rfl, (failsCleanly_iff hstore).mpr ?_⟩
  rintro ⟨type, t, made, place, hoffer, hbase, -⟩
  obtain ⟨rfl, -⟩ := Prod.mk.inj (Option.some.inj hoffer)
  exact nomatch hbase

/-- A drawing with a lone surrogate leaves an empty file. -/
theorem not_failsCleanly_brokenDrawing :
    ¬ freshArchive.FailsCleanly (.ofText "/out") brokenDrawing := by
  intro h
  have hfails : freshArchive.result brokenDrawing =
      .error (.encoding ⟨.utf8, ⟨0xD800, by decide⟩, 0, 1⟩) := rfl
  have hbelow : (freshArchive.save brokenDrawing).files.LiesBelow (.ofText "/out")
      ["out", "t", "unit-1-1.svg"] := ⟨["out"], rfl, by decide⟩
  have hsame := (h _ hfails).files _ hbelow []
  have hbefore : freshArchive.files.find? ["out", "t", "unit-1-1.svg"] = none := by decide
  have hafter : (freshArchive.save brokenDrawing).files.find? ["out", "t", "unit-1-1.svg"] =
      some (.file []) := by decide
  rw [hbefore, hafter] at hsame
  exact nomatch hsame.mp rfl

end Archive

end KernelJob
