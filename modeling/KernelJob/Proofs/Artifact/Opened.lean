import KernelJob.Proofs.Artifact.Writing
import KernelJob.Proofs.FileTree.Opening
import KernelJob.Proofs.Text.Utf8

/-! # What an attempt to write comes to

The attempt to write a payload to a path depends on two things: whether the file can be opened, and
what content the payload has. Data in base 64 is decoded before the file is opened. A text is only
encoded after that, so that a text that cannot be encoded leaves the file empty.

* **`ArtifactStore.writeAt_of_opensAt`** — with a file that can be opened the content decides.
* **`ArtifactStore.writeAt_of_not_opens`** — without one the attempt fails, and no file changes.
* **`ArtifactStore.content_eq_encodeFault_iff`** — which payloads show only after opening that they
  have no content. -/

namespace KernelJob

namespace ArtifactStore

variable {files made : FileTree} {path : Path} {place : Place} {type : ArtifactType}
  {payload : Json}

/-! ## Contents -/

/-- **A payload without content that shows after opening** is a text with a surrogate, under a type
whose data is written as it stands. -/
theorem content_eq_encodeFault_iff :
    (∃ e, content type payload = .ok (.error e)) ↔
      type.isBase64 = false ∧ ∃ t : Text, payload = .text t ∧ t.hasSurrogate = true := by
  by_cases htext : ∃ t, payload = .text t
  · obtain ⟨t, rfl⟩ := htext
    rw [content]
    cases hbase : type.isBase64 with
    | true =>
      -- what has been decoded is content
      constructor
      · rintro ⟨e, he⟩
        rw [if_pos rfl] at he
        cases hdecode : Base64.decode t with
        | error fault =>
          rw [hdecode] at he
          cases he
        | ok bytes =>
          rw [hdecode] at he
          cases he
      · rintro ⟨hfalse, -⟩
        cases hfalse
    | false => simp [Text.exists_utf8_eq_error_iff]
  · have hcontent : ∃ m, content type payload = .error m := by
      cases payload with
      | text t => exact absurd ⟨t, rfl⟩ htext
      | _ =>
        rw [content]
        · split
          · exact ⟨_, rfl⟩
          · exact ⟨_, rfl⟩
        · intro t h
          cases h
    obtain ⟨m, hm⟩ := hcontent
    refine iff_of_false ?_ ?_
    · rintro ⟨e, he⟩
      rw [hm] at he
      cases he
    · rintro ⟨-, t, rfl, -⟩
      exact htext ⟨t, rfl⟩

/-! ## The attempt -/

/-- **With a file that can be opened the content decides**: bytes are written, a text that cannot
be encoded leaves the file empty, and anything else is refused before the file is opened. -/
theorem writeAt_of_opensAt (h : files.OpensAt path made place) (type : ArtifactType)
    (payload : Json) :
    writeAt files path type payload =
      match content type payload with
      | .ok (.ok bytes) => (made.put place (.file bytes), .ok ())
      | .ok (.error e) => (made.put place (.file []), .error (.encoding e))
      | .error fault => (made, .error fault) := by
  unfold writeAt
  rw [h.makes]
  dsimp only
  cases content type payload with
  | error fault => rfl
  | ok encoded =>
    cases encoded with
    | ok bytes =>
      dsimp only
      rw [writeContent, h.write]
    | error e =>
      dsimp only
      rw [writeContent, h.write]

/-- **Without a file that can be opened** the attempt fails, and at most directories are added. -/
theorem writeAt_of_not_opens (h : ¬ files.Opens path) (type : ArtifactType) (payload : Json) :
    ∃ made fault, writeAt files path type payload = (made, .error fault) ∧
      FileTree.AddsDirectories files made := by
  have hadds := FileTree.addsDirectories_makeDirectories files path.parent
  unfold writeAt
  rcases FileTree.refused_of_not_opens h with ⟨made, fault, hmakes⟩ | ⟨made, fault, hmakes, hwrite⟩
  · rw [hmakes] at hadds ⊢
    exact ⟨made, _, rfl, hadds⟩
  · rw [hmakes] at hadds ⊢
    dsimp only
    cases content type payload with
    | error refused => exact ⟨made, _, rfl, hadds⟩
    | ok encoded =>
      cases encoded with
      | ok bytes =>
        refine ⟨made, .file fault, ?_, hadds⟩
        dsimp only
        rw [writeContent, hwrite]
      | error e =>
        refine ⟨made, .file fault, ?_, hadds⟩
        dsimp only
        rw [writeContent, hwrite]

/-- **Of all files an attempt changes at most the one that it opens.** -/
theorem sameFileAt_writeAt (files : FileTree) (path : Path) (type : ArtifactType) (payload : Json)
    (other : Place) (hother : ∀ made place, files.OpensAt path made place → other ≠ place) :
    FileTree.SameFileAt files (writeAt files path type payload).1 other := by
  by_cases hopens : files.Opens path
  · obtain ⟨made, place, hopens⟩ := hopens
    have hne : other ≠ place := hother made place hopens
    rw [writeAt_of_opensAt hopens]
    split
    · exact hopens.sameFileAt_put _ hne
    · exact hopens.sameFileAt_put _ hne
    · exact hopens.addsDirectories.sameFileAt other
  · obtain ⟨made, fault, hwritten, hadds⟩ := writeAt_of_not_opens hopens type payload
    rw [hwritten]
    exact hadds.sameFileAt other

end ArtifactStore

end KernelJob
