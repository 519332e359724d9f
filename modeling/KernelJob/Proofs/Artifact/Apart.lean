import KernelJob.Proofs.Artifact.Writing

/-! # What a store saves

A store saves one output after another, those of several units in any order, and among files of any
kind. Since an output is counted before anything can fail, the next one has another name in any
case, and no file is written twice.

* **`Archive`** — a store and the files among which it saves.
* **`Archive.save_of_offer`**, **`Archive.save_of_no_offer`** — all that one call does.
* **`Archive.Sound`** — every path saved has a number that its unit has come to.
* **`Archive.Apart`** — no file is saved over another one: the names are numbered for each unit, the
  paths are those that the calls give, and in the end each file holds what its call has saved.
* **`Archive.calls_apart`** — this is so after any calls. -/

namespace KernelJob

open ArtifactStore

/-- **A store and the files** among which it saves. -/
structure Archive where
  store : ArtifactStore
  files : FileTree

/-- A call that saves an output of a unit. -/
structure SaveCall where
  unit : Int
  data : Json

/-- Whether a call counts for a unit: it offers something. -/
def SaveCall.counts (unit : Int) (c : SaveCall) : Bool := c.unit == unit && (offer? c.data).isSome

/-- The path that a call has given, if it has saved anything. -/
def savedPath? : Except SaveFault (Option Path) → Option Path
  | .ok path => path
  | .error _ => none

/-- A call that has given a path has ended with it. -/
theorem result_eq_of_savedPath? {result : Except SaveFault (Option Path)} {path : Path}
    (h : savedPath? result = some path) : result = .ok (some path) := by
  cases result with
  | error fault => exact nomatch h
  | ok given =>
    have hgiven : given = some path := h
    rw [hgiven]

namespace Archive

variable {a : Archive} {c : SaveCall} {type : ArtifactType} {payload : Json} {path : Path}
  {bytes : List UInt8}

/-- What a call gives. -/
def result (a : Archive) (c : SaveCall) : Except SaveFault (Option Path) :=
  (a.store.save a.files c.unit c.data).2.2

/-- The store and the files after a call. -/
def save (a : Archive) (c : SaveCall) : Archive :=
  ⟨(a.store.save a.files c.unit c.data).1, (a.store.save a.files c.unit c.data).2.1⟩

/-- The store and the files after some calls. -/
def after (a : Archive) (calls : List SaveCall) : Archive := calls.foldl save a

/-- What some calls give. -/
def results : Archive → List SaveCall → List (Except SaveFault (Option Path))
  | _, [] => []
  | a, c :: calls => a.result c :: (a.save c).results calls

@[simp] theorem after_nil (a : Archive) : a.after [] = a := rfl

@[simp] theorem after_cons (a : Archive) (c : SaveCall) (calls : List SaveCall) :
    a.after (c :: calls) = (a.save c).after calls := rfl

theorem after_append (a : Archive) (before later : List SaveCall) :
    a.after (before ++ later) = (a.after before).after later := List.foldl_append

/-- The path for the next artifact of a unit. -/
def nextPath (a : Archive) (unit : Int) (type : ArtifactType) : Path :=
  a.store.directory.child (artifactName unit (a.store.count unit + 1) type.suffix)

/-! ## One call -/

/-- **A call that offers something** is counted, and its payload is written to the next path. -/
theorem save_of_offer (a : Archive) (h : offer? c.data = some (type, payload)) :
    let written := writeAt a.files (a.nextPath c.unit type) type payload
    a.result c = (written.2.map fun _ => some (a.nextPath c.unit type)) ∧
      (a.save c).files = written.1 ∧
      (a.save c).store = { a.store.countUp c.unit with
        saved := a.store.saved ++ (savedPath? (a.result c)).toList } := by
  obtain ⟨v, hpreferred, hjoined⟩ := offer?_eq_some_iff.mp h
  unfold result Archive.save nextPath ArtifactStore.save
  rw [hpreferred]
  dsimp only
  rw [saveAs_eq hjoined]
  dsimp only
  rcases writeAt a.files (a.store.directory.child
    (artifactName c.unit (a.store.count c.unit + 1) type.suffix)) type payload with
    ⟨files, fault | _⟩
  · refine ⟨rfl, rfl, ?_⟩
    simp [savedPath?, Except.map, countUp]
  · exact ⟨rfl, rfl, rfl⟩

/-- **A call that offers nothing** changes nothing and gives no path. -/
theorem save_of_no_offer (a : Archive) (h : offer? c.data = none) :
    a.save c = a ∧ savedPath? (a.result c) = none := by
  unfold offer? at h
  unfold result Archive.save ArtifactStore.save
  cases hpreferred : preferred c.data artifactTypes with
  | error m => exact ⟨rfl, rfl⟩
  | ok found =>
    rw [hpreferred] at h
    rcases found with _ | ⟨type, v⟩
    · exact ⟨rfl, rfl⟩
    · dsimp only at h ⊢
      unfold saveAs
      cases hjoined : v.joined with
      | error m => exact ⟨rfl, rfl⟩
      | ok payload =>
        rw [hjoined] at h
        exact nomatch h

/-- The directory stays. -/
theorem directory_save (a : Archive) (c : SaveCall) :
    (a.save c).store.directory = a.store.directory := by
  cases h : offer? c.data with
  | none => rw [(save_of_no_offer a h).1]
  | some offer => rw [(save_of_offer a h).2.2]; rfl

/-- A call is counted if it offers something. -/
theorem count_save (a : Archive) (c : SaveCall) (unit : Int) :
    (a.save c).store.count unit = a.store.count unit + if c.counts unit then 1 else 0 := by
  cases h : offer? c.data with
  | none =>
    rw [(save_of_no_offer a h).1]
    simp [SaveCall.counts, h]
  | some offer =>
    rw [(save_of_offer a h).2.2]
    have hcount := count_countUp a.store c.unit unit
    simp only [SaveCall.counts, h, Option.isSome_some, Bool.and_true, beq_iff_eq]
    exact hcount

/-- What a call has saved is added. -/
theorem saved_save (a : Archive) (c : SaveCall) :
    (a.save c).store.saved = a.store.saved ++ (savedPath? (a.result c)).toList := by
  cases h : offer? c.data with
  | none =>
    obtain ⟨hsave, hresult⟩ := save_of_no_offer a h
    rw [hsave, hresult]
    simp
  | some offer => rw [(save_of_offer a h).2.2]

/-- **A path that a call gives** is the next one of its unit, and the payload can be read there. -/
theorem saves (a : Archive) (h : a.result c = .ok (some path)) :
    ∃ type payload bytes, offer? c.data = some (type, payload) ∧ path = a.nextPath c.unit type ∧
      content type payload = .ok (.ok bytes) ∧ (a.save c).files.read path = .ok bytes := by
  cases hoffer : offer? c.data with
  | none =>
    have hresult := (save_of_no_offer a hoffer).2
    rw [h] at hresult
    exact nomatch hresult
  | some offer =>
    obtain ⟨type, payload⟩ := offer
    obtain ⟨hresult, hfiles, -⟩ := save_of_offer a hoffer
    rw [h] at hresult
    cases hwritten : (writeAt a.files (a.nextPath c.unit type) type payload).2 with
    | error fault =>
      rw [hwritten] at hresult
      exact nomatch hresult
    | ok _ =>
      rw [hwritten] at hresult
      obtain rfl : path = a.nextPath c.unit type := Option.some.inj (Except.ok.inj hresult)
      obtain ⟨bytes, hcontent, hread⟩ := read_writeAt hwritten
      exact ⟨type, payload, bytes, rfl, rfl, hcontent, by rw [hfiles]; exact hread⟩

/-! ## Any number of calls -/

/-- **A sound archive**: every path saved has a number that its unit has come to, and no path was
saved twice. -/
structure Sound (a : Archive) : Prop where
  named : ∀ path ∈ a.store.saved, ∃ unit index type, type ∈ artifactTypes ∧
    index ≤ a.store.count unit ∧
      path = a.store.directory.child (artifactName unit index type.suffix)
  nodup : a.store.saved.Nodup

/-- The name of the next path of a unit is another than that of a path that was saved. -/
theorem Sound.artifactName_ne (h : a.Sound) (htype : type ∈ artifactTypes) (unit : Int)
    (hpath : path ∈ a.store.saved) : ∃ name, Path.IsPlain name ∧
      path = a.store.directory.child name ∧
        artifactName unit (a.store.count unit + 1) type.suffix ≠ name := by
  obtain ⟨other, index, otherType, hother, hindex, rfl⟩ := h.named path hpath
  refine ⟨_, isPlain_artifactName other index hother, rfl, fun hname => ?_⟩
  -- the same unit would have come to this number already
  obtain ⟨rfl, hnumber, -⟩ := artifactName_inj htype hother hname
  omega

/-- The next path of a unit leads to a place of its own. -/
theorem Sound.next (h : a.Sound) (htype : type ∈ artifactTypes) (unit : Int)
    (hpath : path ∈ a.store.saved) : ∀ (t : FileTree) place,
      t.locate (a.nextPath unit type) = .ok place → t.locate path ≠ .ok place := by
  obtain ⟨name, hplain, rfl, hne⟩ := h.artifactName_ne htype unit hpath
  intro t place hplace
  exact FileTree.locate_child_ne (isPlain_artifactName unit _ htype) hplain hne hplace

/-- The next path of a unit has not been saved. -/
theorem Sound.next_notMem (h : a.Sound) (htype : type ∈ artifactTypes) (unit : Int) :
    a.nextPath unit type ∉ a.store.saved := by
  intro hmem
  obtain ⟨name, hplain, hpath, hne⟩ := h.artifactName_ne htype unit hmem
  exact hne (Path.child_inj (isPlain_artifactName unit _ htype) hplain hpath)

/-- An archive with nothing saved is sound. -/
theorem sound_new (root : Path) (task : Text) (files : FileTree) :
    Sound ⟨ArtifactStore.new root task, files⟩ :=
  ⟨fun _ hpath => absurd hpath List.not_mem_nil, List.nodup_nil⟩

/-- **A call keeps an archive sound.** -/
theorem Sound.save (h : a.Sound) (c : SaveCall) : (a.save c).Sound := by
  have hcounts : ∀ unit, a.store.count unit ≤ (a.save c).store.count unit := by
    intro unit
    rw [count_save]
    omega
  have hnamed : ∀ path ∈ a.store.saved, ∃ unit index type, type ∈ artifactTypes ∧
      index ≤ (a.save c).store.count unit ∧
        path = (a.save c).store.directory.child (artifactName unit index type.suffix) := by
    intro path hpath
    obtain ⟨unit, index, type, htype, hindex, rfl⟩ := h.named path hpath
    rw [directory_save]
    exact ⟨unit, index, type, htype, Nat.le_trans hindex (hcounts unit), rfl⟩
  cases hgiven : savedPath? (a.result c) with
  | none =>
    have hsaved : (a.save c).store.saved = a.store.saved := by
      rw [saved_save, hgiven]
      simp
    exact ⟨by rw [hsaved]; exact hnamed, by rw [hsaved]; exact h.nodup⟩
  | some path =>
    have hsaved : (a.save c).store.saved = a.store.saved ++ [path] := by
      rw [saved_save, hgiven]
      rfl
    obtain ⟨type, payload, bytes, hoffer, rfl, -⟩ := saves a (result_eq_of_savedPath? hgiven)
    have htype := mem_of_offer? hoffer
    constructor
    · rw [hsaved]
      intro path hpath
      rcases List.mem_append.mp hpath with hpath | hpath
      · exact hnamed path hpath
      · obtain rfl := List.mem_singleton.mp hpath
        -- the call counts for its unit, which has come to the number of the new path
        have hcounts : c.counts c.unit = true := by simp [SaveCall.counts, hoffer]
        refine ⟨c.unit, a.store.count c.unit + 1, type, htype, ?_, ?_⟩
        · rw [count_save, hcounts]
          simp
        · rw [directory_save]
          rfl
    · rw [hsaved]
      refine List.nodup_append.mpr ⟨h.nodup, by simp, ?_⟩
      intro path hpath other hother hsame
      obtain rfl := List.mem_singleton.mp hother
      rw [hsame] at hpath
      exact h.next_notMem htype c.unit hpath

/-- **A call leaves the files that were saved** as they are. -/
theorem Sound.read_save (h : a.Sound) (c : SaveCall) (hpath : path ∈ a.store.saved)
    (hread : a.files.read path = .ok bytes) : (a.save c).files.read path = .ok bytes := by
  cases hoffer : offer? c.data with
  | none =>
    rw [(save_of_no_offer a hoffer).1]
    exact hread
  | some offer =>
    obtain ⟨type, payload⟩ := offer
    rw [(save_of_offer a hoffer).2.1]
    exact read_writeAt_of_ne (h.next (mem_of_offer? hoffer) c.unit hpath) hread

/-- Any calls keep an archive sound. -/
theorem Sound.after (h : a.Sound) (calls : List SaveCall) : (a.after calls).Sound := by
  induction calls generalizing a with
  | nil => exact h
  | cons c calls ih => exact ih (h.save c)

/-- Any calls leave the files that were saved as they are. -/
theorem Sound.read_after (h : a.Sound) (calls : List SaveCall) (hpath : path ∈ a.store.saved)
    (hread : a.files.read path = .ok bytes) : (a.after calls).files.read path = .ok bytes := by
  induction calls generalizing a with
  | nil => exact hread
  | cons c calls ih =>
    have hmem : path ∈ (a.save c).store.saved := by
      rw [saved_save]
      exact List.mem_append_left _ hpath
    exact ih (h.save c) hmem (h.read_save c hpath hread)

/-- The directory stays. -/
theorem directory_after (a : Archive) (calls : List SaveCall) :
    (a.after calls).store.directory = a.store.directory := by
  induction calls generalizing a with
  | nil => rfl
  | cons c calls ih => rw [after_cons, ih, directory_save]

/-- The count of a unit is the number of its calls that offered something. -/
theorem count_after (a : Archive) (calls : List SaveCall) (unit : Int) :
    (a.after calls).store.count unit = a.store.count unit + calls.countP (·.counts unit) := by
  induction calls generalizing a with
  | nil => rfl
  | cons c calls ih =>
    rw [after_cons, ih, count_save, List.countP_cons]
    omega

/-- What was saved is what the calls gave. -/
theorem saved_after (a : Archive) (calls : List SaveCall) :
    (a.after calls).store.saved = a.store.saved ++ (a.results calls).filterMap savedPath? := by
  induction calls generalizing a with
  | nil => simp [results]
  | cons c calls ih =>
    rw [after_cons, ih, saved_save, results, List.append_assoc]
    cases hgiven : savedPath? (a.result c) <;> simp [hgiven]

/-- **What a store has done with some calls** that were made one after the other. -/
structure Apart (root : Path) (task : Text) (files : FileTree) (calls : List SaveCall) : Prop
    where
  /-- No path was saved twice. -/
  nodup : (after ⟨.new root task, files⟩ calls).store.saved.Nodup
  /-- The paths saved are those that the calls gave, in order. -/
  saved : (after ⟨.new root task, files⟩ calls).store.saved =
    (results ⟨.new root task, files⟩ calls).filterMap savedPath?
  /-- A call that offers something attempts to write its payload to the file that is named for its
  unit, for the number of the call among those of the unit that have offered something, and for its
  type. It gives the path of this file if the attempt succeeds. -/
  numbered : ∀ before c later type payload, calls = before ++ c :: later →
    offer? c.data = some (type, payload) →
      let a := after ⟨.new root task, files⟩ before
      let path := (root.child (fileName task)).child
        (artifactName c.unit (before.countP (·.counts c.unit) + 1) type.suffix)
      let written := writeAt a.files path type payload
      a.result c = (written.2.map fun _ => some path) ∧ (a.save c).files = written.1
  /-- A call that offers nothing gives no path and changes nothing. -/
  passed : ∀ before c later, calls = before ++ c :: later → offer? c.data = none →
    let a := after ⟨.new root task, files⟩ before
    savedPath? (a.result c) = none ∧ a.save c = a
  /-- In the end the file of a path that a call gave holds what this call offered. -/
  content : ∀ before c later path, calls = before ++ c :: later →
    (after ⟨.new root task, files⟩ before).result c = .ok (some path) →
      ∃ type payload bytes, offer? c.data = some (type, payload) ∧
        content type payload = .ok (.ok bytes) ∧
          (after ⟨.new root task, files⟩ calls).files.read path = .ok bytes

/-- **The artifacts of a store never collide**, whatever calls are made on it, and whatever files
there are at first. -/
theorem calls_apart (root : Path) (task : Text) (files : FileTree) (calls : List SaveCall) :
    Apart root task files calls := by
  have hsound := sound_new root task files
  refine ⟨(hsound.after calls).nodup, saved_after _ calls, ?_, ?_, ?_⟩
  · intro before c later type payload hcalls hoffer
    -- at first nothing is counted for any unit
    have hpath : (after ⟨.new root task, files⟩ before).nextPath c.unit type =
        (root.child (fileName task)).child
          (artifactName c.unit (before.countP (·.counts c.unit) + 1) type.suffix) := by
      rw [nextPath, directory_after, count_after]
      have hzero : (ArtifactStore.new root task).count c.unit = 0 := rfl
      rw [hzero, Nat.zero_add]
      rfl
    obtain ⟨hresult, hfiles, -⟩ := save_of_offer (after ⟨.new root task, files⟩ before) hoffer
    rw [hpath] at hresult hfiles
    exact ⟨hresult, hfiles⟩
  · intro before c later hcalls hoffer
    exact (save_of_no_offer _ hoffer).symm
  · intro before c later path hcalls hresult
    obtain ⟨type, payload, bytes, hoffer, -, hcontent, hread⟩ := saves _ hresult
    refine ⟨type, payload, bytes, hoffer, hcontent, ?_⟩
    have hmem : path ∈ ((after ⟨.new root task, files⟩ before).save c).store.saved := by
      rw [saved_save, hresult]
      exact List.mem_append_right _ List.mem_cons_self
    -- the calls that follow leave alone what was saved by then
    rw [hcalls, after_append, after_cons]
    exact ((hsound.after before).save c).read_after later hmem hread

end Archive

end KernelJob
