import KernelJob.Proofs.Path

/-! # What becomes of a file tree

The operations on a file tree never take a directory away, so every way through it stays as it was.
Making directories leaves all files as they were, and writing a file leaves all others.

* **`FileTree.walk_cons_eq_ok_iff`** — the first step of a way.
* **`FileTree.KeepsDirectories`** — a tree in which every way is as it was in another one.
* **`FileTree.Grows`** — a tree that has all entries of another one.
* **`FileTree.AddsDirectories`** — a tree to which at most directories were added.
* **`FileTree.addsDirectories_makeDirectories`** — directories that are made are added, even if that
  fails on the way.
* **`FileTree.read_of_write`**, **`FileTree.read_write_of_ne`** — what has been written to a path is
  read from it, and what was in other files stays there. -/

namespace KernelJob.FileTree

variable {t t' t'' : FileTree} {place : Place} {p q : Path}

/-! ## Ways -/

theorem walk_nil (t : FileTree) (start : Place) : t.walk start [] = .ok start := rfl

/-- **The first step of a way** is made from a directory, to the one above it or to what has the
name in it. -/
theorem walk_cons_eq_ok_iff {start goal : Place} {name : Text} {names : List Text} :
    t.walk start (name :: names) = .ok goal ↔
      t.find? start = some .directory ∧
        if name = Path.up then t.walk start.dropLast names = .ok goal
        else byteLength name ≤ 255 ∧ t.walk (start ++ [name]) names = .ok goal := by
  rw [walk]
  cases t.find? start with
  | none => simp
  | some entry =>
    cases entry with
    | file bytes => simp
    | directory =>
      dsimp only
      by_cases hup : name = Path.up
      · simp [hup]
      · by_cases hlong : 255 < byteLength name
        · have hnot : ¬ byteLength name ≤ 255 := Nat.not_le.mpr hlong
          simp [hup, hlong, hnot]
        · have hle : byteLength name ≤ 255 := Nat.le_of_not_lt hlong
          simp [hup, hlong, hle]

/-- **A tree that keeps the directories of another one.** -/
structure KeepsDirectories (t t' : FileTree) : Prop where
  workingDirectory : t'.workingDirectory = t.workingDirectory
  directory : ∀ place, t.find? place = some .directory → t'.find? place = some .directory

namespace KeepsDirectories

/-- An entry put at a place that is no directory. -/
theorem put (e : Entry) (hplace : t.find? place ≠ some .directory) :
    KeepsDirectories t (t.put place e) := by
  refine ⟨rfl, fun other h => ?_⟩
  have hne : other ≠ place := by
    rintro rfl
    exact hplace h
  rw [find?_put_of_ne t e hne, h]

/-- **Every way is as it was**: all places on a way are directories. -/
theorem walk (h : KeepsDirectories t t') {start : Place} {names : List Text} {goal : Place}
    (hwalk : t.walk start names = .ok goal) : t'.walk start names = .ok goal := by
  induction names generalizing start with
  | nil => exact hwalk
  | cons name names ih =>
    rw [walk_cons_eq_ok_iff] at hwalk ⊢
    obtain ⟨hstart, hrest⟩ := hwalk
    refine ⟨h.directory start hstart, ?_⟩
    by_cases hup : name = Path.up
    · rw [if_pos hup] at hrest ⊢
      exact ih hrest
    · rw [if_neg hup] at hrest ⊢
      exact ⟨hrest.1, ih hrest.2⟩

end KeepsDirectories

/-- A path leads to a place if the operating system accepts it and the way of its names leads
there. -/
theorem locate_eq_ok_iff :
    t.locate p = .ok place ↔ checkPath p.text = .ok () ∧ byteLength p.text ≤ 4095 ∧
      t.walk (if p.isAbsolute then [] else t.workingDirectory) p.names = .ok place := by
  unfold locate
  cases hcheck : checkPath p.text with
  | error fault => simp
  | ok _ =>
    dsimp only
    by_cases hlength : 4095 < byteLength p.text
    · rw [if_pos hlength]
      refine iff_of_false (fun h => nomatch h) fun h => ?_
      have hle := h.2.1
      omega
    · rw [if_neg hlength]
      have hle : byteLength p.text ≤ 4095 := by omega
      cases t.walk (if p.isAbsolute then [] else t.workingDirectory) p.names with
      | error cause => simp
      | ok goal => simp [hle]

/-- Every path leads where it led. -/
theorem KeepsDirectories.locate (h : KeepsDirectories t t') (hlocate : t.locate p = .ok place) :
    t'.locate p = .ok place := by
  rw [locate_eq_ok_iff] at hlocate ⊢
  obtain ⟨hcheck, hlength, hwalk⟩ := hlocate
  rw [h.workingDirectory]
  exact ⟨hcheck, hlength, h.walk hwalk⟩

/-- A file is read at the place to which its path leads. -/
theorem read_eq_ok_iff {bytes : List UInt8} :
    t.read p = .ok bytes ↔
      ∃ place, t.locate p = .ok place ∧ t.find? place = some (.file bytes) := by
  unfold read
  cases t.locate p with
  | error fault => simp
  | ok place =>
    dsimp only
    cases hfind : t.find? place with
    | none => simp [hfind]
    | some entry => cases entry <;> simp [hfind]

/-! ## Trees that grow -/

/-- **A tree that has all entries of another one.** -/
structure Grows (t t' : FileTree) : Prop where
  workingDirectory : t'.workingDirectory = t.workingDirectory
  entry : ∀ place e, t.find? place = some e → t'.find? place = some e

namespace Grows

/-- A tree that grows keeps its directories. -/
theorem keepsDirectories (h : Grows t t') : KeepsDirectories t t' :=
  ⟨h.workingDirectory, fun place hplace => h.entry place .directory hplace⟩

/-- A tree that grows keeps its files. -/
theorem read (h : Grows t t') {bytes : List UInt8} (hread : t.read p = .ok bytes) :
    t'.read p = .ok bytes := by
  rw [read_eq_ok_iff] at hread ⊢
  obtain ⟨place, hlocate, hfile⟩ := hread
  exact ⟨place, h.keepsDirectories.locate hlocate, h.entry place _ hfile⟩

end Grows

/-- **A tree to which at most directories were added**: whatever else stands somewhere has stood
there before. -/
structure AddsDirectories (t t' : FileTree) : Prop where
  workingDirectory : t'.workingDirectory = t.workingDirectory
  entry : ∀ place, t'.find? place = t.find? place ∨
    t.find? place = none ∧ t'.find? place = some .directory

namespace AddsDirectories

theorem refl (t : FileTree) : AddsDirectories t t := ⟨rfl, fun _ => .inl rfl⟩

theorem trans (h : AddsDirectories t t') (h' : AddsDirectories t' t'') : AddsDirectories t t'' := by
  refine ⟨h'.workingDirectory.trans h.workingDirectory, fun place => ?_⟩
  rcases h.entry place with hsame | ⟨hnone, hmade⟩
  · rw [← hsame]
    exact h'.entry place
  · -- what was added first is still there
    rcases h'.entry place with hsame' | ⟨hnone', -⟩
    · exact .inr ⟨hnone, hsame'.trans hmade⟩
    · rw [hnone'] at hmade
      exact nomatch hmade

/-- A tree to which directories were added has all that it had before. -/
theorem grows (h : AddsDirectories t t') : Grows t t' := by
  refine ⟨h.workingDirectory, fun place e he => ?_⟩
  rcases h.entry place with hsame | ⟨hnone, -⟩
  · rw [hsame, he]
  · rw [hnone] at he
    exact nomatch he

end AddsDirectories

/-- A directory that is made is added. -/
theorem addsDirectories_makeDirectory (h : t.makeDirectory p = .ok t') : AddsDirectories t t' := by
  unfold makeDirectory at h
  cases hlocate : t.locate p with
  | error fault =>
    rw [hlocate] at h
    exact nomatch h
  | ok place =>
    rw [hlocate] at h
    dsimp only at h
    cases hfind : t.find? place with
    | some entry =>
      rw [hfind] at h
      exact nomatch h
    | none =>
      rw [hfind] at h
      obtain rfl : t.put place .directory = t' := Except.ok.inj h
      refine ⟨rfl, fun other => ?_⟩
      by_cases hother : other = place
      · -- nothing stands there, so that it is not the root
        have hroot : place ≠ [] := by
          rintro rfl
          exact nomatch (find?_root t).symm.trans hfind
        subst hother
        exact .inr ⟨hfind, find?_put t _ hroot⟩
      · exact .inl (find?_put_of_ne t _ hother)

/-- **Directories that are made are added**, even if that fails on the way. -/
theorem addsDirectories_makeDirectories (t : FileTree) (p : Path) :
    AddsDirectories t (t.makeDirectories p).1 := by
  have hfuel : ∀ (fuel : Nat) (t : FileTree) (p : Path),
      AddsDirectories t (makeDirectoriesFuel fuel t p).1 := by
    intro fuel
    induction fuel with
    | zero => exact fun t p => AddsDirectories.refl t
    | succ fuel ih =>
      intro t p
      rw [makeDirectoriesFuel]
      have hparent := ih t p.parent
      split
      · rename_i hmade
        exact addsDirectories_makeDirectory hmade
      · -- the directory above has to be made first
        split
        · exact AddsDirectories.refl t
        · split
          · rename_i hfailed
            rw [hfailed] at hparent
            exact hparent
          · rename_i hmade
            rw [hmade] at hparent
            split
            · rename_i hlast
              exact hparent.trans (addsDirectories_makeDirectory hlast)
            · exact hparent
            · exact hparent
      · exact AddsDirectories.refl t
  exact hfuel _ t p

/-- A tree in which directories were made has all that it had before. -/
theorem grows_makeDirectories (t : FileTree) (p : Path) : Grows t (t.makeDirectories p).1 :=
  (addsDirectories_makeDirectories t p).grows

/-! ## Writing -/

/-- A file is written to the place to which its path leads, unless a directory stands there. -/
theorem write_eq_ok_iff {bytes : List UInt8} :
    t.write p bytes = .ok t' ↔ ∃ place, t.locate p = .ok place ∧
      t.find? place ≠ some .directory ∧ t' = t.put place (.file bytes) := by
  unfold write locateFile
  cases t.locate p with
  | error fault => simp [Except.map]
  | ok place =>
    dsimp only
    by_cases hplace : t.find? place = some .directory
    · simp [hplace, Except.map]
    · simp [hplace, Except.map, @eq_comm _ t']

/-- **What has been written to a path is read from it.** -/
theorem read_of_write {bytes : List UInt8} (h : t.write p bytes = .ok t') :
    t'.read p = .ok bytes := by
  obtain ⟨place, hlocate, hplace, rfl⟩ := write_eq_ok_iff.mp h
  have hroot : place ≠ [] := by
    rintro rfl
    exact hplace (find?_root t)
  have hkeeps := KeepsDirectories.put (.file bytes) hplace
  exact read_eq_ok_iff.mpr ⟨place, hkeeps.locate hlocate, find?_put t _ hroot⟩

/-- **What is in another file stays there** when a file is written. -/
theorem read_write_of_ne {bytes content : List UInt8} (h : t.write p bytes = .ok t')
    (hne : ∀ place, t.locate p = .ok place → t.locate q ≠ .ok place)
    (hread : t.read q = .ok content) : t'.read q = .ok content := by
  obtain ⟨place, hlocate, hplace, rfl⟩ := write_eq_ok_iff.mp h
  obtain ⟨other, hother, hfile⟩ := read_eq_ok_iff.mp hread
  have hplaces : other ≠ place := by
    rintro rfl
    exact hne other hlocate hother
  have hkeeps := KeepsDirectories.put (.file bytes) hplace
  refine read_eq_ok_iff.mpr ⟨other, hkeeps.locate hother, ?_⟩
  rw [find?_put_of_ne t _ hplaces, hfile]

/-! ## Files of one directory -/

/-- The way of some names and more names is the way of the former and then that of the latter. -/
theorem walk_append_eq_ok_iff {start goal : Place} {names more : List Text} :
    t.walk start (names ++ more) = .ok goal ↔
      ∃ between, t.walk start names = .ok between ∧ t.walk between more = .ok goal := by
  induction names generalizing start with
  | nil => simp [walk_nil]
  | cons name names ih =>
    simp only [List.cons_append, walk_cons_eq_ok_iff]
    by_cases hup : name = Path.up
    · simp only [if_pos hup, ih, exists_and_left, and_assoc]
    · simp only [if_neg hup, ih, exists_and_left, and_assoc]

/-- **The place to which the names of a path lead**, through directories that are there. -/
def LeadsTo (t : FileTree) (p : Path) (place : Place) : Prop :=
  t.walk (if p.isAbsolute then [] else t.workingDirectory) p.names = .ok place

/-- A path that is accepted leads to the place that is located. -/
theorem leadsTo_of_locate (h : t.locate p = .ok place) : t.LeadsTo p place :=
  (locate_eq_ok_iff.mp h).2.2

/-- It leads there as long as no directory is taken away. -/
theorem KeepsDirectories.leadsTo (h : KeepsDirectories t t') (hp : t.LeadsTo p place) :
    t'.LeadsTo p place := by
  unfold LeadsTo
  rw [h.workingDirectory]
  exact h.walk hp

/-- **A path that was extended by a plain name** leads right below the place of the path. -/
theorem leadsTo_child {dir : Path} {name : Text} (hname : Path.IsPlain name)
    (h : t.LeadsTo (dir.child name) place) :
    ∃ above, t.LeadsTo dir above ∧ place = above ++ [name] := by
  unfold LeadsTo at h
  rw [Path.child_of_isPlain hname] at h
  obtain ⟨above, habove, hlast⟩ := walk_append_eq_ok_iff.mp h
  refine ⟨above, habove, ?_⟩
  -- the last step is no step back
  rw [walk_cons_eq_ok_iff, if_neg hname.ne_up, walk_nil] at hlast
  exact (Except.ok.inj hlast.2.2).symm

/-- **Files of one directory with different names stand at different places.** -/
theorem locate_child_ne {dir : Path} {a b : Text} (ha : Path.IsPlain a) (hb : Path.IsPlain b)
    (hne : a ≠ b) (h : t.locate (dir.child a) = .ok place) :
    t.locate (dir.child b) ≠ .ok place := by
  intro h'
  obtain ⟨above, habove, hplace⟩ := leadsTo_child ha (leadsTo_of_locate h)
  obtain ⟨above', habove', hplace'⟩ := leadsTo_child hb (leadsTo_of_locate h')
  obtain rfl : above = above' := by
    unfold LeadsTo at habove habove'
    rw [habove] at habove'
    exact Except.ok.inj habove'
  rw [hplace] at hplace'
  exact hne (List.singleton_inj.mp (List.append_cancel_left hplace'))

end KernelJob.FileTree
