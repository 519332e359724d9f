import KernelJob.Proofs.FileTree

/-! # Opening a file

To write a file below directories that may not be there yet, these are made first and then the file
is opened. Making directories touches no file, and opening empties the file. So of all files only
the one that is opened can change.

* **`FileTree.SameFileAt`** — a place at which two trees have the same file, or none.
* **`FileTree.OpensAt`** — a file can be opened: the tree by then, and the place of the file.
* **`FileTree.OpensAt.sameFileAt_put`** — files at other places stay as they are.
* **`FileTree.OpensAt.read_put`** — what is put at the place is read from the path. -/

namespace KernelJob.FileTree

variable {t t' made : FileTree} {place : Place} {p : Path}

/-! ## Files -/

/-- **A place at which two trees have the same file**, or none at all. -/
def SameFileAt (t t' : FileTree) (place : Place) : Prop :=
  ∀ bytes, t'.find? place = some (.file bytes) ↔ t.find? place = some (.file bytes)

theorem SameFileAt.refl (t : FileTree) (place : Place) : SameFileAt t t place :=
  fun _ => Iff.rfl

/-- Directories that are added are no files. -/
theorem AddsDirectories.sameFileAt (h : AddsDirectories t t') (place : Place) :
    SameFileAt t t' place := by
  intro bytes
  rcases h.entry place with hsame | ⟨hnone, hmade⟩
  · rw [hsame]
  · rw [hnone, hmade]
    simp

/-! ## Opening -/

/-- A file is located where its path leads, unless a directory stands there. -/
theorem locateFile_eq_ok_iff :
    t.locateFile p = .ok place ↔ t.locate p = .ok place ∧ t.find? place ≠ some .directory := by
  unfold locateFile
  cases t.locate p with
  | error fault => simp
  | ok goal =>
    dsimp only
    by_cases hgoal : t.find? goal = some .directory
    · rw [if_pos hgoal]
      refine iff_of_false (fun h => nomatch h) ?_
      rintro ⟨h, hplace⟩
      obtain rfl : goal = place := Except.ok.inj h
      exact hplace hgoal
    · rw [if_neg hgoal]
      refine ⟨fun h => ⟨h, ?_⟩, fun h => h.1⟩
      obtain rfl : goal = place := Except.ok.inj h
      exact hgoal

/-- **A file can be opened**: the directories above its path can be made, which gives the tree
`made`, and there the path leads to `place`, where no directory stands. -/
structure OpensAt (t : FileTree) (p : Path) (made : FileTree) (place : Place) : Prop where
  makes : t.makeDirectories p.parent = (made, .ok ())
  locates : made.locateFile p = .ok place

/-- **A file can be opened.** -/
def Opens (t : FileTree) (p : Path) : Prop := ∃ made place, t.OpensAt p made place

namespace OpensAt

theorem locate (h : t.OpensAt p made place) : made.locate p = .ok place :=
  (locateFile_eq_ok_iff.mp h.locates).1

theorem ne_directory (h : t.OpensAt p made place) : made.find? place ≠ some .directory :=
  (locateFile_eq_ok_iff.mp h.locates).2

/-- Up to the moment of opening at most directories were added. -/
theorem addsDirectories (h : t.OpensAt p made place) : AddsDirectories t made := by
  have hadds := addsDirectories_makeDirectories t p.parent
  rw [h.makes] at hadds
  exact hadds

/-- A file that is opened can be written. -/
theorem write (h : t.OpensAt p made place) (bytes : List UInt8) :
    made.write p bytes = .ok (made.put place (.file bytes)) :=
  write_eq_ok_iff.mpr ⟨place, h.locate, h.ne_directory, rfl⟩

/-- **What is put at the place is read from the path.** -/
theorem read_put (h : t.OpensAt p made place) (bytes : List UInt8) :
    (made.put place (.file bytes)).read p = .ok bytes :=
  read_of_write (h.write bytes)

/-- What is put at the place stands there. -/
theorem find?_put (h : t.OpensAt p made place) (e : Entry) :
    (made.put place e).find? place = some e := by
  have hroot : place ≠ [] := by
    rintro rfl
    exact h.ne_directory (find?_root made)
  exact FileTree.find?_put made e hroot

/-- **Files at other places stay as they are.** -/
theorem sameFileAt_put (h : t.OpensAt p made place) (bytes : List UInt8) {other : Place}
    (hother : other ≠ place) : SameFileAt t (made.put place (.file bytes)) other := by
  have hmade := h.addsDirectories.sameFileAt other
  intro content
  rw [find?_put_of_ne made _ hother]
  exact hmade content

/-- At the place itself the file is the same if and only if it has held just that before. -/
theorem sameFileAt_put_self (h : t.OpensAt p made place) (bytes : List UInt8) :
    SameFileAt t (made.put place (.file bytes)) place ↔
      t.find? place = some (.file bytes) := by
  unfold SameFileAt
  rw [h.find?_put]
  constructor
  · intro hsame
    exact (hsame bytes).mp rfl
  · intro hfile content
    rw [hfile]

/-- Every path leads where it led when the file was opened. -/
theorem leadsTo_put (h : t.OpensAt p made place) (bytes : List UInt8) {dir : Path} {goal : Place}
    (hdir : made.LeadsTo dir goal) : (made.put place (.file bytes)).LeadsTo dir goal :=
  (KeepsDirectories.put (.file bytes) h.ne_directory).leadsTo hdir

end OpensAt

/-- A file that cannot be opened is refused while the directories are made or when it is
written. -/
theorem refused_of_not_opens (h : ¬ t.Opens p) :
    (∃ made fault, t.makeDirectories p.parent = (made, .error fault)) ∨
      ∃ made fault, t.makeDirectories p.parent = (made, .ok ()) ∧
        ∀ bytes, made.write p bytes = .error fault := by
  rcases hmakes : t.makeDirectories p.parent with ⟨made, fault | _⟩
  · exact .inl ⟨made, fault, rfl⟩
  · refine .inr ⟨made, ?_⟩
    cases hlocates : made.locateFile p with
    | ok place => exact absurd ⟨made, place, hmakes, hlocates⟩ h
    | error fault =>
      refine ⟨fault, rfl, fun bytes => ?_⟩
      unfold FileTree.write
      rw [hlocates]
      rfl

end KernelJob.FileTree
