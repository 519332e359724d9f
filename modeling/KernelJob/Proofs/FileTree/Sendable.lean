import KernelJob.FileTree
import KernelJob.Proofs.Text.Clean
import KernelJob.Proofs.Yields

/-! # Paths that can be sent

A path without surrogates and nulls is sent to the operating system as it is. Whatever goes wrong
with it then is a failure that the operating system reports.

* **`Path.Sendable`** — no name of a path holds a surrogate or a null.
* **`FileTree.yields_makeDirectories`**, **`FileTree.yields_write`** — directories are made and
  files written above and at such a path, or the operating system refuses it. -/

namespace KernelJob

/-- A text that the operating system takes as a part of a path: no surrogates, no nulls. -/
def Text.Sendable (t : Text) : Prop := ∀ c ∈ t, c.isSurrogate = false ∧ c.val ≠ 0

instance (t : Text) : Decidable t.Sendable := inferInstanceAs (Decidable (∀ c ∈ t, _))

/-- A text that can be sent is clean. -/
theorem Text.Sendable.clean {t : Text} (h : t.Sendable) : t.Clean := fun c hc => (h c hc).1

namespace Path

/-- **A path that can be sent**: all its names can. -/
def Sendable (p : Path) : Prop := ∀ name ∈ p.names, name.Sendable

instance (p : Path) : Decidable p.Sendable := inferInstanceAs (Decidable (∀ name ∈ p.names, _))

variable {p : Path}

/-- The path above one that can be sent can be sent. -/
theorem Sendable.parent (h : p.Sendable) : p.parent.Sendable :=
  fun name hname => h name (List.dropLast_subset _ hname)

/-- The text of such a path can be sent. -/
theorem Sendable.text (h : p.Sendable) : p.text.Sendable := by
  have hroot : (PathRoot.text p.root).Sendable := by
    cases p.root <;> decide
  have hjoin (names : List Text) (hnames : ∀ name ∈ names, name.Sendable) :
      (Text.join [slash] names).Sendable := by
    induction names with
    | nil => exact nofun
    | cons name names ih =>
      obtain ⟨hname, hrest⟩ := List.forall_mem_cons.mp hnames
      cases names with
      | nil => exact hname
      | cons next names =>
        rw [Text.join_cons_cons, Text.Sendable, List.forall_mem_append, List.forall_mem_append]
        exact ⟨⟨hname, by decide⟩, ih hrest⟩
  unfold Path.text
  split
  · decide
  · exact List.forall_mem_append.mpr ⟨hroot, hjoin p.names h⟩

end Path

namespace FileTree

/-- A text without surrogates has its bytes. -/
theorem exists_pathBytesFrom_eq {t : Text} (h : t.Clean) (pos : Nat) :
    ∃ bytes, pathBytesFrom pos t = .ok bytes := by
  induction t generalizing pos with
  | nil => exact ⟨[], rfl⟩
  | cons c cs ih =>
    obtain ⟨hc, hcs⟩ := Text.clean_cons.mp h
    obtain ⟨bytes, hbytes⟩ := ih hcs (pos + 1)
    have hescape : isByteEscape c = false := by
      simp only [CodePoint.isSurrogate, isByteEscape, Bool.and_eq_false_iff,
        decide_eq_false_iff_not] at hc ⊢
      omega
    rw [pathBytesFrom, hescape, hc, hbytes]
    exact ⟨_, rfl⟩

/-- A text that can be sent is checked without a failure. -/
theorem checkPath_of_sendable {t : Text} (h : t.Sendable) : checkPath t = .ok () := by
  obtain ⟨bytes, hbytes⟩ := exists_pathBytesFrom_eq h.clean 0
  have hnull : ¬ t.any (·.val == 0) = true := by
    rw [Bool.not_eq_true, List.any_eq_false]
    exact fun c hc hzero => (h c hc).2 (beq_iff_eq.mp hzero)
  rw [checkPath, pathBytes, hbytes]
  exact if_neg hnull

variable {p : Path}

/-- An operation ends well or the operating system reports a failure. -/
abbrev Reports {α : Type} (r : Except FileFault α) : Prop :=
  Yields r (fun _ => True) fun fault => fault.isOs = true

theorem yields_locate (t : FileTree) (hp : p.Sendable) : Reports (t.locate p) := by
  unfold locate
  rw [checkPath_of_sendable hp.text]
  dsimp only
  split
  · rfl
  · split
    · rfl
    · trivial

theorem yields_makeDirectory (t : FileTree) (hp : p.Sendable) : Reports (t.makeDirectory p) := by
  have hlocate := t.yields_locate hp
  unfold makeDirectory
  cases hplace : t.locate p with
  | error fault =>
    rw [hplace] at hlocate
    exact hlocate
  | ok place =>
    dsimp only
    split
    · rfl
    · trivial

theorem yields_settle (t : FileTree) (p : Path) {fault : FileFault} (hfault : fault.isOs = true) :
    Reports (t.settle p fault) := by
  unfold settle
  split
  · split
    · trivial
    · exact hfault
  · exact hfault

/-- **Directories are made** above and at a path that can be sent, or the operating system reports
why not. -/
theorem yields_makeDirectories (t : FileTree) (hp : p.Sendable) :
    Reports (t.makeDirectories p).2 := by
  have hfuel (fuel : Nat) : ∀ (t : FileTree) (p : Path), p.Sendable →
      Reports (makeDirectoriesFuel fuel t p).2 := by
    induction fuel with
    | zero => exact fun _ _ _ => rfl
    | succ fuel ih =>
      intro t p hp
      have hmake := t.yields_makeDirectory hp
      have habove := ih t p.parent hp.parent
      rw [makeDirectoriesFuel]
      split
      · trivial
      · split
        · rfl
        · split
          · rename_i hmade
            rw [hmade] at habove
            exact habove
          · rename_i t' _ _
            have hagain := t'.yields_makeDirectory hp
            split
            · trivial
            · rfl
            · rename_i fault _ hfault
              rw [hfault] at hagain
              exact (t'.yields_settle p hagain).map fun _ _ => trivial
      · rename_i fault _ hfault
        rw [hfault] at hmake
        exact (t.yields_settle p hmake).map fun _ _ => trivial
  exact hfuel _ t p hp

/-- **A file is written** at such a path, or the operating system reports why not. -/
theorem yields_write (t : FileTree) (hp : p.Sendable) (bytes : List UInt8) :
    Reports (t.write p bytes) := by
  have hlocate := t.yields_locate hp
  unfold write locateFile
  cases hplace : t.locate p with
  | error fault =>
    rw [hplace] at hlocate
    exact hlocate
  | ok place =>
    dsimp only
    split
    · rfl
    · trivial

end FileTree

end KernelJob
