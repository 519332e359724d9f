import KernelJob.Proofs.Artifact.Numbered
import KernelJob.Proofs.FileTree
import KernelJob.Proofs.Json.Access

/-! # Saving an output

A store takes the type that it prefers from the data of an output, counts the output, and writes its
payload to a file. This may fail at a directory, at the payload or at the file.

* **`ArtifactStore.offer?`** — the type and the payload that a store takes from the data of an
  output.
* **`ArtifactStore.writeAt`** — the attempt to write a payload to a path.
* **`ArtifactStore.saveAs_eq`** — saving is counting and then such an attempt.
* **`ArtifactStore.read_writeAt`**, **`ArtifactStore.read_writeAt_of_ne`** — what an attempt has
  written can be read, and other files stay as they were. -/

namespace KernelJob

namespace ArtifactStore

variable {s : ArtifactStore} {files : FileTree} {unit : Int} {type : ArtifactType}
  {data payload : Json}

/-! ## What is offered -/

/-- **What data offer to a store**: the preferred type, and its payload. A list stands for the text
that its items make together; if one of them is no text, nothing is offered. -/
def offer? (data : Json) : Option (ArtifactType × Json) :=
  match preferred data artifactTypes with
  | .ok (some (type, v)) =>
    match v.joined with
    | .ok payload => some (type, payload)
    | .error _ => none
  | _ => none

/-- What is preferred is one of the types to choose from. -/
theorem mem_of_preferred {types : List ArtifactType} {v : Json}
    (h : preferred data types = .ok (some (type, v))) : type ∈ types := by
  induction types with
  | nil => exact nomatch h
  | cons first types ih =>
    rw [preferred] at h
    cases hholds : data.holds first.mime with
    | error m =>
      rw [hholds] at h
      exact nomatch h
    | ok found =>
      rw [hholds] at h
      cases found with
      | false => exact List.mem_cons_of_mem first (ih h)
      | true =>
        cases hfield : data.field first.mime with
        | error m =>
          rw [hfield] at h
          exact nomatch h
        | ok payload =>
          rw [hfield] at h
          obtain ⟨rfl, -⟩ := Prod.mk.inj (Option.some.inj (Except.ok.inj h))
          exact List.mem_cons_self

/-- **Of an object the first type is preferred** that is one of its keys. -/
theorem preferred_object (fields : Fields) (types : List ArtifactType) :
    preferred (.object fields) types =
      .ok (types.findSome? fun type => (fields.get? type.mime).map fun v => (type, v)) := by
  induction types with
  | nil => rfl
  | cons first types ih =>
    rw [preferred, List.findSome?_cons]
    cases hget : fields.get? first.mime with
    | none =>
      rw [Json.holds_of_get?_eq_none hget]
      exact ih
    | some v =>
      obtain ⟨hholds, hfield⟩ := Json.uses_of_get? hget
      rw [hholds, hfield]
      rfl

/-- An offer is what was preferred, joined. -/
theorem offer?_eq_some_iff :
    offer? data = some (type, payload) ↔
      ∃ v, preferred data artifactTypes = .ok (some (type, v)) ∧ v.joined = .ok payload := by
  unfold offer?
  split
  · rename_i found v hpreferred
    constructor
    · intro h
      cases hjoined : v.joined with
      | error m =>
        rw [hjoined] at h
        exact nomatch h
      | ok joined =>
        rw [hjoined] at h
        obtain ⟨rfl, rfl⟩ := Prod.mk.inj (Option.some.inj h)
        exact ⟨v, hpreferred, hjoined⟩
    · rintro ⟨v', hpreferred', hjoined⟩
      rw [hpreferred] at hpreferred'
      obtain ⟨rfl, rfl⟩ := Prod.mk.inj (Option.some.inj (Except.ok.inj hpreferred'))
      rw [hjoined]
  · rename_i hnone
    refine iff_of_false (fun h => nomatch h) ?_
    rintro ⟨v, hpreferred, -⟩
    exact hnone type v hpreferred

/-- What is offered is of a type that is saved. -/
theorem mem_of_offer? (h : offer? data = some (type, payload)) : type ∈ artifactTypes := by
  obtain ⟨v, hpreferred, -⟩ := offer?_eq_some_iff.mp h
  exact mem_of_preferred hpreferred

/-! ## Counting -/

/-- **Counting up for a unit** leaves the counts of the others. -/
theorem count_countUp (s : ArtifactStore) (unit other : Int) :
    (s.countUp unit).count other = s.count other + if unit = other then 1 else 0 := by
  by_cases h : unit = other
  · subst h
    simp [countUp, count]
  · have hne : other ≠ unit := fun he => h he.symm
    have hb : (other == unit) = false := by simpa using hne
    simp [countUp, count, List.lookup_cons, hb, FileTree.lookup_filter_ne hne, h]

/-! ## Writing to a path -/

/-- **The attempt to write a payload to a path**: the directories above are made, the payload is
turned into bytes, and the file is written. -/
def writeAt (files : FileTree) (path : Path) (type : ArtifactType) (payload : Json) :
    FileTree × Except SaveFault Unit :=
  match files.makeDirectories path.parent with
  | (files, .error fault) => (files, .error (.file fault))
  | (files, .ok _) =>
    match content type payload with
    | .error fault => (files, .error fault)
    | .ok bytes => writeContent files path bytes

/-- **Saving data** is counting up and writing to the path with the next number. -/
theorem saveAs_eq {v : Json} (h : v.joined = .ok payload) :
    s.saveAs files unit type v =
      let path := s.directory.child (artifactName unit (s.count unit + 1) type.suffix)
      match writeAt files path type payload with
      | (files, .ok _) => ({ s.countUp unit with saved := s.saved ++ [path] }, files, .ok path)
      | (files, .error fault) => (s.countUp unit, files, .error fault) := by
  have hcount : (s.countUp unit).count unit = s.count unit + 1 := by
    rw [count_countUp, if_pos rfl]
  unfold saveAs writeAt
  rw [h]
  dsimp only
  rw [hcount]
  have hdirectory : (s.countUp unit).directory = s.directory := rfl
  rw [hdirectory]
  rcases files.makeDirectories
    (s.directory.child (artifactName unit (s.count unit + 1) type.suffix)).parent with
    ⟨made, fault | _⟩
  · rfl
  · dsimp only
    cases content type payload with
    | error fault => rfl
    | ok bytes => rfl

variable {path other : Path} {bytes : List UInt8}

/-- What has been written can be read. -/
theorem read_writeContent {encoded : Except EncodeFault (List UInt8)}
    (h : (writeContent files path encoded).2 = .ok ()) :
    ∃ bytes, encoded = .ok bytes ∧ (writeContent files path encoded).1.read path = .ok bytes := by
  cases encoded with
  | error fault =>
    unfold writeContent at h
    dsimp only at h
    cases hwrite : files.write path [] <;> simp [hwrite] at h
  | ok bytes =>
    unfold writeContent at h ⊢
    dsimp only at h ⊢
    cases hwrite : files.write path bytes with
    | error fault =>
      rw [hwrite] at h
      exact nomatch h
    | ok written => exact ⟨bytes, rfl, FileTree.read_of_write hwrite⟩

/-- Writing to a file leaves another one as it was. A text that cannot be encoded has emptied the
file by then. -/
theorem read_writeContent_of_ne {encoded : Except EncodeFault (List UInt8)}
    (hne : ∀ place, files.locate path = .ok place → files.locate other ≠ .ok place)
    (hread : files.read other = .ok bytes) :
    (writeContent files path encoded).1.read other = .ok bytes := by
  have hwrites : ∀ content, ∀ t, files.write path content = .ok t → t.read other = .ok bytes :=
    fun content t h => FileTree.read_write_of_ne h hne hread
  cases encoded with
  | error fault =>
    unfold writeContent
    dsimp only
    cases hwrite : files.write path [] with
    | error refused => exact hread
    | ok written => exact hwrites _ _ hwrite
  | ok content =>
    unfold writeContent
    dsimp only
    cases hwrite : files.write path content with
    | error refused => exact hread
    | ok written => exact hwrites _ _ hwrite

/-- What an attempt has written can be read. -/
theorem read_writeAt (h : (writeAt files path type payload).2 = .ok ()) :
    ∃ bytes, content type payload = .ok (.ok bytes) ∧
      (writeAt files path type payload).1.read path = .ok bytes := by
  unfold writeAt at h ⊢
  rcases hmade : files.makeDirectories path.parent with ⟨made, fault | _⟩
  · rw [hmade] at h
    exact nomatch h
  · rw [hmade] at h
    dsimp only at h ⊢
    cases hcontent : content type payload with
    | error fault =>
      rw [hcontent] at h
      exact nomatch h
    | ok encoded =>
      rw [hcontent] at h
      obtain ⟨bytes, rfl, hread⟩ := read_writeContent h
      exact ⟨bytes, rfl, hread⟩

/-- **Other files stay as they were**, whether an attempt succeeds or not. -/
theorem read_writeAt_of_ne
    (hne : ∀ (t : FileTree) place, t.locate path = .ok place → t.locate other ≠ .ok place)
    (hread : files.read other = .ok bytes) :
    (writeAt files path type payload).1.read other = .ok bytes := by
  unfold writeAt
  have hmade := (FileTree.grows_makeDirectories files path.parent).read hread
  rcases hfiles : files.makeDirectories path.parent with ⟨made, fault | _⟩
  · rw [hfiles] at hmade
    exact hmade
  · rw [hfiles] at hmade
    dsimp only at hmade ⊢
    cases content type payload with
    | error fault => exact hmade
    | ok encoded => exact read_writeContent_of_ne (hne made) hmade

/-! ## Payloads that are no text -/

/-- A text is no misfit, whatever it holds. -/
theorem writeAt_text_ne_misfit (t : Text) (m : Misfit) :
    (writeAt files path type (.text t)).2 ≠ .error (.misfit m) := by
  unfold writeAt
  rcases files.makeDirectories path.parent with ⟨made, fault | _⟩
  · simp
  · dsimp only
    cases hcontent : content type (.text t) with
    | error fault =>
      -- it may only be no base 64
      rw [content] at hcontent
      split at hcontent
      · cases hdecode : Base64.decode t with
        | error broken =>
          rw [hdecode] at hcontent
          obtain rfl := Except.error.inj hcontent
          simp
        | ok bytes =>
          rw [hdecode] at hcontent
          exact nomatch hcontent
      · exact nomatch hcontent
    | ok encoded =>
      dsimp only
      unfold writeContent
      cases encoded with
      | error fault =>
        dsimp only
        cases made.write path [] <;> simp
      | ok bytes =>
        dsimp only
        cases made.write path bytes <;> simp

/-- **A value that is no text is a misfit** if the directories can be made: this comes first. -/
theorem writeAt_misfit_iff {v : Json} (hv : v.isTextual = false) :
    (∃ m, (writeAt files path type v).2 = .error (.misfit m)) ↔
      (files.makeDirectories path.parent).2 = .ok () := by
  have hcontent : ∃ m, content type v = .error (.misfit m) := by
    cases v with
    | text t => exact nomatch hv
    | _ =>
      rw [content]
      · split
        · exact ⟨_, rfl⟩
        · exact ⟨_, rfl⟩
      · exact fun t h => nomatch h
  obtain ⟨m, hm⟩ := hcontent
  unfold writeAt
  rw [hm]
  rcases files.makeDirectories path.parent with ⟨made, fault | _⟩
  · simp
  · simp

end ArtifactStore

end KernelJob
