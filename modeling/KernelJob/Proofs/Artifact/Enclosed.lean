import KernelJob.Proofs.Artifact.Trace

/-! # Artifacts stay in their directory

A label is part of a path, and so are the data of an output by their type. Neither can lead out of
the root of a store: the label becomes one tame name right below the root, and whatever a store
writes stands right below that. This is said of the paths that a store gives, and also of the places
to which they lead, which are what counts if the root itself leads upwards.

* **`Archive.Enclosed`** — where a store may write.
* **`Archive.calls_enclosed`** — every store keeps to this, whatever its calls are. -/

namespace KernelJob

open ArtifactStore

namespace Archive

/-- **A call of a store that stays below the root**, in the directory for its task. -/
structure Enclosed (root : Path) (task : Text) (a : Archive) (c : SaveCall) : Prop where
  /-- The name for the task is one component that leads nowhere else. -/
  tame : Tame (fileName task)
  /-- The directory is the root and this component. -/
  directory : a.store.directory = ⟨root.root, root.names ++ [fileName task]⟩
  /-- A path that the call gives is the directory and one more component. -/
  path : ∀ path, a.result c = .ok (some path) → ∃ name, Path.IsPlain name ∧
    path = ⟨root.root, root.names ++ [fileName task, name]⟩
  /-- A file that the call makes, changes or removes stands right in the directory, wherever the
  root leads. This is so whether the call succeeds or not. -/
  written : ∀ place, ¬ FileTree.SameFileAt a.files (a.save c).files place →
    ∃ base name, (a.save c).files.LeadsTo root base ∧ Path.IsPlain name ∧
      place = base ++ [fileName task, name]

variable {root : Path} {task : Text} {a : Archive} {c : SaveCall}

/-- A file that was changed is the one that was opened. -/
theorem leadsTo_of_changed (hstore : a.store.directory = root.child (fileName task))
    {place : Place} (h : ¬ FileTree.SameFileAt a.files (a.save c).files place) :
    ∃ base name, (a.save c).files.LeadsTo root base ∧ Path.IsPlain name ∧
      place = base ++ [fileName task, name] := by
  cases hoffer : offer? c.data with
  | none =>
    rw [(save_of_no_offer a hoffer).1] at h
    exact absurd (FileTree.SameFileAt.refl a.files place) h
  | some offer =>
    obtain ⟨type, payload⟩ := offer
    have htype := mem_of_offer? hoffer
    rw [(save_of_offer a hoffer).2.1] at h ⊢
    by_cases hopens : ∃ made, a.files.OpensAt (a.nextPath c.unit type) made place
    · obtain ⟨made, hopens⟩ := hopens
      have hplace : made.LeadsTo (a.nextPath c.unit type) place :=
        FileTree.leadsTo_of_locate hopens.locate
      obtain ⟨base, hbase, hname⟩ := leadsTo_nextPath hstore htype hplace
      refine ⟨base, _, ?_, isPlain_artifactName c.unit _ htype, hname⟩
      -- the root leads there when the file is opened, and still does when it has been written
      rw [writeAt_of_opensAt hopens]
      split
      · exact hopens.leadsTo_put _ hbase
      · exact hopens.leadsTo_put _ hbase
      · exact hbase
    · refine absurd (sameFileAt_writeAt a.files _ type payload place ?_) h
      rintro made goal hgoal rfl
      exact hopens ⟨made, hgoal⟩

/-- A call on a store of a root stays below the root. -/
theorem enclosed (hstore : a.store.directory = root.child (fileName task)) (c : SaveCall) :
    Enclosed root task a c := by
  have htame := tame_fileName task
  have hdirectory : root.child (fileName task) = ⟨root.root, root.names ++ [fileName task]⟩ :=
    Path.child_of_isPlain htame.isPlain root
  refine ⟨htame, hstore.trans hdirectory, fun path hpath => ?_, fun place hplace =>
    leadsTo_of_changed hstore hplace⟩
  obtain ⟨type, payload, bytes, hoffer, rfl, -⟩ := saves a hpath
  have hplain := isPlain_artifactName c.unit (a.store.count c.unit + 1) (mem_of_offer? hoffer)
  refine ⟨_, hplain, ?_⟩
  rw [nextPath, Path.child_of_isPlain hplain, hstore, hdirectory]
  simp only [List.append_assoc, List.singleton_append]

/-- **Artifacts cannot escape the root of their store**: whatever the root, the task, the files and
the calls are, each call stays in the directory for the task. -/
theorem calls_enclosed (root : Path) (task : Text) (files : FileTree) (calls : List SaveCall)
    (c : SaveCall) : Enclosed root task (after ⟨.new root task, files⟩ calls) c := by
  have hdirectory : (after ⟨.new root task, files⟩ calls).store.directory =
      root.child (fileName task) := directory_after _ calls
  exact enclosed hdirectory c

end Archive

end KernelJob
